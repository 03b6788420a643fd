import Rulebook.Json.Text
import Rulebook.Rule.Context

/-!
# Rules on the items of lists

Items are compared by `Value.comparable`: a container by its JSON text, anything else as it is.  The loops
over the items, `allMembers` and `allDistinct`, take what items are compared by as a parameter.
-/

set_option autoImplicit false

namespace Rulebook

/-! ## Members -/

section

variable {α κ : Type} (equals : κ → κ → Except Failure Bool) (comparable : α → Except Failure κ)

/-- Whether every value is among the members; later values are not looked at once one is not. -/
def allMembers (members : List κ) : List α → Except Failure Bool
  | [] => .ok true
  | v :: r => do
    let key ← comparable v
    if ← Value.anyItem (fun member ↦ equals member key) members then allMembers members r
    else return false

/-- Whether no two items are equal. -/
def allDistinct (seen : List κ) : List α → Except Failure Bool
  | [] => .ok true
  | v :: r => do
    let key ← comparable v
    if ← Value.anyItem (fun member ↦ equals member key) seen then return false
    else allDistinct (seen ++ [key]) r

end

/-! ## The rules -/

variable [Platform]

/-- What an item is compared by. -/
def Value.comparable : Value → Except Failure Value
  | .dict es => do return .text (← jsonText (.dict es))
  | .list xs => do return .text (← jsonText (.list xs))
  | .tuple xs => do return .text (← jsonText (.tuple xs))
  | v => .ok v

namespace RuleContext

/-- Every parameter is an item of the list. -/
def arrayContains (ctx : RuleContext) : Judgement := do
  let message ← ctx.translate "validator.arrayContains" [(.text "requiredValues", .list ctx.params)]
  match ctx.value.items? with
  | none => return .fail message
  | some items =>
    if ctx.params.isEmpty then ctx.rejectParams "ArrayContains"
    else
      let members ← items.mapM Value.comparable
      return .ofBool (← allMembers Value.equals Value.comparable members ctx.params) message

/-- No item of the list occurs twice. -/
def arrayUnique (ctx : RuleContext) : Judgement := do
  let message ← ctx.translate "validator.arrayUnique" []
  match ctx.value.items? with
  | none => return .fail message
  | some items =>
    return .ofBool (← allDistinct Value.equals Value.comparable [] items) message

end RuleContext
end Rulebook
