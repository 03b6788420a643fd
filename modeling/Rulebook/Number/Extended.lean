/-!
# Exact numbers with two infinities

Every number that the rules compare is either a rational number or one of the two infinities; this
is the line on which they are compared.  Comparison is exact: an integer of any size, a decimal and
a binary fraction that are close to each other are still told apart.
-/

set_option autoImplicit false

namespace Rulebook

/-- A rational number or an infinity. -/
inductive Extended where
  | negInfinity
  | value (q : Rat)
  | posInfinity
deriving DecidableEq

namespace Extended

/-- Whether one number is smaller than another. -/
def lt : Extended → Extended → Bool
  | negInfinity, negInfinity => false
  | negInfinity, _ => true
  | value _, negInfinity => false
  | value p, value q => decide (p < q)
  | value _, posInfinity => true
  | posInfinity, _ => false

/-- Whether one number is at most another. -/
def le (a b : Extended) : Bool := !lt b a

end Extended
end Rulebook
