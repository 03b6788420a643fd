import Rulebook.Number.Numeral
import Rulebook.Rule.Context

/-!
# Rules that compare numbers

Numbers, and texts that write numbers, are compared as doubles.  `Value.toNumber` is the conversion;
truth values and not-a-numbers are no numbers here.  A rule whose value or parameter is no number
fails.
-/

set_option autoImplicit false

namespace Rulebook

/-- The double that a value stands for, if it is a number or writes one. -/
def Value.toNumber (v : Value) : Except Failure (Option Double) := do
  let x ← match v with
    | .int n =>
      match Double.ofInt? n with
      | some x => pure (some x)
      | none => throw .integerTooLarge
    | .float x => pure (some x)
    | .decimal d => if d.isSignalling then throw .signallingNaN else pure (some d.toDouble)
    | .text s => pure (Double.ofText? s)
    | _ => pure none
  return x.filter (!·.isNaN)

namespace RuleContext

/-- The number that the first parameter stands for. -/
def firstNumber (ctx : RuleContext) : Except Failure (Option Double) :=
  match ctx.params with
  | [] => .ok none
  | p :: _ => p.toNumber

variable [Platform]

/-- Compares the value with the first parameter. -/
def compare (ctx : RuleContext) (holds : Double → Double → Bool) (key : String) : Judgement := do
  let message ← ctx.translate key []
  match ← ctx.value.toNumber with
  | none => return .fail message
  | some x =>
    match ← ctx.firstNumber with
    | none => return .fail message
    | some y => return .ofBool (holds x y) message

/-- The value lies between the first two parameters, bounds included. -/
def numberBetween (ctx : RuleContext) : Judgement := do
  match ctx.params with
  | low :: high :: _ =>
    match ← ctx.value.toNumber with
    | none => ctx.reject "validator.number" []
    | some x =>
      match ← low.toNumber, ← high.toNumber with
      | some a, some b =>
        if a.le x && x.le b then return .pass
        else ctx.reject "validator.numberBetween" [(.text "min", low), (.text "max", high)]
      | _, _ => ctx.rejectParams "NumberBetween"
  | _ => ctx.rejectParams "NumberBetween"

/-- The value is a whole number, or writes one. -/
def integer (ctx : RuleContext) : Judgement := do
  let x ← ctx.value.toNumber
  ctx.require (x.any Double.isInteger) "validator.integer"

/-- The value is a number itself. -/
def number (ctx : RuleContext) : Judgement :=
  let isNumber := match ctx.value with
    | .int _ | .float _ | .decimal _ => true
    | _ => false
  ctx.require isNumber "validator.number"

end RuleContext
end Rulebook
