import Rulebook.Rule.Precision

/-!
# Rules on lengths

The length of a text is the number of its characters, that of a list or tuple the number of its
items.  The one-sided rules on texts let empty values pass, so that they can be combined with
optional fields.
-/

set_option autoImplicit false

namespace Rulebook

/-- A count in a message: without a point when it is whole. -/
def countText (x : Double) : String :=
  match x.toInt? with
  | some n => toString n
  | none => x.text

namespace RuleContext

/-! ## Texts -/

/-- The text of the value; a value that is no text counts as the empty one. -/
def textOrEmpty (ctx : RuleContext) : String := ctx.value.text?.getD ""

/-- The number a parameter stands for, if it is there. -/
def numberAt (ctx : RuleContext) (i : Nat) : Except Failure (Option Double) :=
  match ctx.params[i]? with
  | none => .ok none
  | some p => p.toNumber

/-- The trimmed text has exactly the length of the parameter, or the text has a length between two
parameters. -/
def length [Platform] (ctx : RuleContext) : Judgement := do
  let s := ctx.textOrEmpty
  match ← ctx.numberAt 0, ← ctx.numberAt 1 with
  | some low, some high => do
    let message ← ctx.translate "validator.lengthRange"
      [(.text "minLength", .text (countText low)), (.text "maxLength", .text (countText high))]
    return .ofBool (liesBetween s.toList.length low high) message
  | some n, none => do
    let message ← ctx.translate "validator.length" [(.text "length", .text (countText n))]
    let actual := (Text.trimChars s.toList).length
    return .ofBool (n.toExtended? == some (.value (actual : Rat))) message
  | none, _ => return .pass

/-- The bound that the first parameter sets; zero when it sets none. -/
def bound (ctx : RuleContext) : Except Failure Double := do
  match ← ctx.firstNumber with
  | some x => return if x.isZero then .zero else x
  | none => return .zero

/-- The value is empty, or a text whose length satisfies a condition with the bound. -/
def boundLength [Platform] (ctx : RuleContext) (holds : Nat → Double → Bool) (key param : String) :
    Judgement := do
  let limit ← ctx.bound
  if ctx.value.isEmpty then return .pass
  else
    let message ← ctx.translate key [(.text param, .text (countText limit))]
    return .ofBool (ctx.value.text?.any fun s ↦ holds s.toList.length limit) message

/-- Whether a natural number is at least a double. -/
def atLeast (n : Nat) (x : Double) : Bool :=
  x.toExtended?.any fun q ↦ q.le (.value (n : Rat))

/-- Whether a natural number is at most a double. -/
def atMost (n : Nat) (x : Double) : Bool :=
  x.toExtended?.any fun q ↦ Extended.le (.value (n : Rat)) q

/-- The text is not shorter than the bound. -/
def minLength [Platform] (ctx : RuleContext) : Judgement :=
  ctx.boundLength atLeast "validator.minLength" "minLength"

/-- The text is not longer than the bound. -/
def maxLength [Platform] (ctx : RuleContext) : Judgement :=
  ctx.boundLength atMost "validator.maxLength" "maxLength"

/-! ## Lists -/

/-- The natural number that the first parameter stands for. -/
def naturalParam (ctx : RuleContext) : Except Failure (Option Nat) := do
  match (← ctx.firstNumber).bind Double.toInt? with
  | some n => return if n < 0 then none else some n.toNat
  | none => return none

variable [Platform]

/-- The number of items satisfies a condition with the parameter. -/
def itemCount (ctx : RuleContext) (holds : Nat → Nat → Bool) (rule key param : String) :
    Judgement := do
  match ctx.value.items? with
  | none => ctx.reject "validator.array" []
  | some items =>
    match ← ctx.naturalParam with
    | none => ctx.rejectParams rule
    | some limit =>
      if holds items.length limit then return .pass
      else
        ctx.reject key [(.text param, .int limit), (.text "actualLength", .int items.length)]

/-- There are at least as many items as the parameter says. -/
def arrayMinLength (ctx : RuleContext) : Judgement :=
  ctx.itemCount (fun n limit ↦ decide (limit ≤ n)) "ArrayMinLength" "validator.arrayMinLength"
    "minLength"

/-- There are at most as many items as the parameter says. -/
def arrayMaxLength (ctx : RuleContext) : Judgement :=
  ctx.itemCount (fun n limit ↦ decide (n ≤ limit)) "ArrayMaxLength" "validator.arrayMaxLength"
    "maxLength"

/-- There are exactly as many items as the parameter says. -/
def arrayLength (ctx : RuleContext) : Judgement :=
  ctx.itemCount (fun n limit ↦ n == limit) "ArrayLength" "validator.arrayLength" "length"

end RuleContext
end Rulebook
