import Rulebook.Rule.Context

/-!
# Rules on presence and kind

Whether there is a value at all, and whether it is a text or a list.
-/

set_option autoImplicit false

namespace Rulebook
namespace RuleContext

variable [Platform]

/-- The value is not empty. -/
def required (ctx : RuleContext) : Judgement :=
  ctx.require (!ctx.value.isEmpty) "validator.required"

/-- The value is a text. -/
def string (ctx : RuleContext) : Judgement :=
  ctx.require ctx.value.text?.isSome "validator.string"

/-- The value is a text that is not blank. -/
def nonNullString (ctx : RuleContext) : Judgement :=
  ctx.require (ctx.value.text?.any fun s ↦ !Text.isBlankText s) "validator.nonNullString"

/-- The value is a list or a tuple. -/
def array (ctx : RuleContext) : Judgement :=
  ctx.require ctx.value.items?.isSome "validator.array"

end RuleContext
end Rulebook
