import Rulebook.Translator

/-!
# What a rule sees, and what it answers

A rule is run with a `RuleContext`: the value to be judged, the parameters of the rule, the names of
the field, and whatever else belongs to the request.  A standard rule answers with a `Verdict`: the
value passes, or it fails with a message.

Messages are looked up through the context, which supplies the parameters that every message may
use.  Without a translator the key of a message stands for the message.
-/

set_option autoImplicit false

namespace Rulebook

/-- What a rule is run with. -/
structure RuleContext where
  value : Value
  params : List Value
  /-- The name under which the rule was found; a rule that is given itself has none. -/
  ruleName : Option String
  /-- The specification of the rule as it was written. -/
  rawRuleName : Option String
  fieldName : Value
  /-- The display name of the field. -/
  translatedName : Value
  context : Value
  /-- The rules of the request. -/
  rules : Value
  translator : Option Translator
  /-- Further arguments of the request. -/
  extra : List Entry

namespace RuleContext

/-- The best display name of the field that there is. -/
def label (ctx : RuleContext) : Value :=
  if ctx.translatedName.truthy then ctx.translatedName
  else if ctx.fieldName.truthy then ctx.fieldName
  else .text ""

/-- The parameters that every message may use. -/
def messageParams (ctx : RuleContext) : List Entry :=
  [(.text "field", ctx.label), (.text "value", ctx.value),
    (.text "rule", .text (ctx.ruleName.getD "")), (.text "ruleParams", .list ctx.params)]

/-- The message of a key, with further parameters that take precedence. -/
def translate [Platform] (ctx : RuleContext) (key : String) (params : List Entry) :
    Except Failure String :=
  match ctx.translator with
  | none => .ok key
  | some t =>
    t.translate key (params.foldl (fun acc e ↦ Value.insert e.1 e.2 acc) ctx.messageParams) none

end RuleContext

/-- The answer of a standard rule. -/
inductive Verdict where
  | pass
  | fail (message : String)
deriving DecidableEq

namespace Verdict

/-- A verdict as the value that a rule returns. -/
def toValue : Verdict → Value
  | pass => .bool true
  | fail message => .text message

/-- Passes on a condition, and else fails with a message. -/
def ofBool (condition : Bool) (message : String) : Verdict :=
  if condition then pass else fail message

end Verdict

/-- The result of judging a value. -/
abbrev Judgement := Except Failure Verdict

variable [Platform]

namespace RuleContext

/-- Fails with the message of a key. -/
def reject (ctx : RuleContext) (key : String) (params : List Entry) : Judgement := do
  return .fail (← ctx.translate key params)

/-- Passes on a condition, and else fails with the message of a key. -/
def require (ctx : RuleContext) (condition : Bool) (key : String) : Judgement :=
  if condition then .ok .pass else ctx.reject key []

/-- Fails because the parameters of a rule make no sense. -/
def rejectParams (ctx : RuleContext) (rule : String) : Judgement :=
  ctx.reject "validator.invalidRuleParams" [(.text "rule", .text rule)]

end RuleContext
end Rulebook
