import Rulebook.Rule.Extent
import Rulebook.Rule.Form
import Rulebook.Rule.Membership
import Rulebook.Rule.Presence

/-!
# Running standard rules

`StandardRule.judge` runs a rule by its name.  Three rules pass always: it is their presence in a
list of rules that counts.
-/

set_option autoImplicit false

namespace Rulebook

/-- Runs a standard rule. -/
def StandardRule.judge [Platform] : StandardRule → RuleContext → Judgement
  | required, ctx => ctx.required
  | nullable, _ | empty, _ | sometimes, _ => .ok .pass
  | number, ctx => ctx.number
  | integer, ctx => ctx.integer
  | numberBetween, ctx => ctx.numberBetween
  | numberLessThan, ctx => ctx.compare Double.lt "validator.numberLessThan"
  | numberLessThanOrEquals, ctx => ctx.compare Double.le "validator.numberLessThanOrEquals"
  | numberGreaterThan, ctx => ctx.compare (fun x y ↦ y.lt x) "validator.numberGreaterThan"
  | numberGreaterThanOrEquals, ctx =>
    ctx.compare (fun x y ↦ y.le x) "validator.numberGreaterThanOrEquals"
  | numberEquals, ctx => ctx.compare Double.eq "validator.numberEquals"
  | numberIsDifferentFrom, ctx =>
    ctx.compare (fun x y ↦ !x.eq y) "validator.numberIsDifferentFrom"
  | string, ctx => ctx.string
  | nonNullString, ctx => ctx.nonNullString
  | length, ctx => ctx.length
  | minLength, ctx => ctx.minLength
  | maxLength, ctx => ctx.maxLength
  | startsWithOneOf, ctx => ctx.startsWithOneOf
  | endsWithOneOf, ctx => ctx.endsWithOneOf
  | email, ctx => ctx.email
  | url, ctx => ctx.url
  | fileName, ctx => ctx.fileName
  | uuid, ctx => ctx.uuid
  | json, ctx => ctx.json
  | hexColor, ctx => ctx.hexColor
  | regex, ctx => ctx.regex
  | decimalPlaces, ctx => ctx.decimalPlaces
  | array, ctx => ctx.array
  | arrayMinLength, ctx => ctx.arrayMinLength
  | arrayMaxLength, ctx => ctx.arrayMaxLength
  | arrayLength, ctx => ctx.arrayLength
  | arrayContains, ctx => ctx.arrayContains
  | arrayUnique, ctx => ctx.arrayUnique

end Rulebook
