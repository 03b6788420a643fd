import Rulebook.Rule.Magnitude

/-!
# The rule on decimal places

The decimal places of a value are the characters behind the first point of its text.
-/

set_option autoImplicit false

namespace Rulebook

/-- How many characters stand behind the first point. -/
def decimalPlaces (cs : List Char) : Nat := (cs.dropWhile (· != '.')).length - 1

/-- Whether a natural number lies between two doubles, bounds included. -/
def liesBetween (n : Nat) (low high : Double) : Bool :=
  match low.toExtended?, high.toExtended? with
  | some a, some b => a.le (.value (n : Rat)) && Extended.le (.value (n : Rat)) b
  | _, _ => false

variable [Platform]

namespace RuleContext

/-- The text in which decimal places are counted. -/
def numeralText (ctx : RuleContext) : Except Failure (List Char) :=
  match ctx.value with
  | .text s => .ok (Text.trimChars s.toList)
  | v => do return (← v.display).toList

/-- The value has as many decimal places as the parameter says, or as many as lie between the first
two parameters. -/
def decimalPlaces (ctx : RuleContext) : Judgement := do
  let bounds := ctx.params.take 2
  if bounds.isEmpty then ctx.rejectParams "DecimalPlaces"
  else if (← ctx.value.toNumber).isNone then ctx.reject "validator.number" []
  else
    let actual := Rulebook.decimalPlaces (← ctx.numeralText)
    let numbers ← bounds.mapM Value.toNumber
    match numbers.head?.join, numbers.getLast?.join with
    | some low, some high =>
      let places := joinWith "-" (← bounds.mapM Value.display)
      let message ← ctx.translate "validator.decimalPlaces"
        [(.text "places", .text places), (.text "actualPlaces", .int actual)]
      return .ofBool (liesBetween actual low high) message
    | _, _ => ctx.rejectParams "DecimalPlaces"

end RuleContext
end Rulebook
