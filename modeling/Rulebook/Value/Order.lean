import Rulebook.Value.Equality

/-!
# Which of two values is less

Numbers are ordered by the exact numbers they stand for, texts by code points, bytes by their values,
and tuples by the first position at which they differ.  Values of other or of different kinds have no
order, and asking for it is a failure that names both.
-/

set_option autoImplicit false

namespace Rulebook
namespace Value

/-- Whether a value is a decimal that is not a number. -/
def isDecimalNaN : Value → Bool
  | decimal (.nan ..) => true
  | _ => false

/-- The failure of two values that have no order. -/
def unorderedFailure (a b : Value) : Failure := .unordered a.qualifiedTypeName b.qualifiedTypeName

mutual

/-- Whether one value is less than another. -/
def less : Value → Value → Except Failure Bool
  | text s, text t => .ok (decide (s < t))
  | bytes s, bytes t => .ok (decide (s.map UInt8.toNat < t.map UInt8.toNat))
  | tuple xs, tuple ys => lessItems xs ys
  | moment a, moment b => .ok (decide (a.instant < b.instant))
  | a, b =>
    if a.isNumeric && b.isNumeric then
      if a.isDecimalNaN || b.isDecimalNaN then .error .signallingComparison
      else .ok (match a.toExtended?, b.toExtended? with
        | some p, some q => p.lt q
        | _, _ => false)
    else .error (unorderedFailure a b)

/-- Whether one list comes before another, by the first position at which they differ. -/
def lessItems : List Value → List Value → Except Failure Bool
  | [], [] => .ok false
  | [], _ :: _ => .ok true
  | _ :: _, [] => .ok false
  | x :: xs, y :: ys => do if ← equals x y then lessItems xs ys else less x y

end

end Value
end Rulebook
