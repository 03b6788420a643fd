import Rulebook.Number.Extended

/-!
# Double-precision numbers as exact data

A double is a sign, a significand and an exponent of two, or one of the special values.  Here it is
that data and not a machine word, so that what it stands for (`toExtended?`), when it is an integer
(`toInt?`) and how a rational number is rounded to it (`ofRatio`) are all statements about integers.

`ofRatio` finds the exponent at which the significand has 53 bits, or the smallest exponent there
is, rounds to the nearest multiple of that power of two with ties to the even significand, and gives
an infinity beyond the largest double.
-/

set_option autoImplicit false

namespace Rulebook

/-- A double-precision number.  The value of `finite s m e` is `m · 2 ^ e`, negated when `s`. -/
inductive Double where
  | nan
  | infinity (negative : Bool)
  | finite (negative : Bool) (significand : Nat) (exponent : Int)
deriving DecidableEq

namespace Double

/-- The least exponent of a double. -/
def minExponent : Int := -1074

/-- The greatest exponent of a double. -/
def maxExponent : Int := 971

/-- Positive zero. -/
def zero : Double := .finite false 0 minExponent

/-- Two to an integer power, as a rational number. -/
def twoPow (e : Int) : Rat :=
  if 0 ≤ e then (Nat.pow 2 e.toNat : Rat) else mkRat 1 (Nat.pow 2 (-e).toNat)

/-- The number a double stands for; there is none for a not-a-number. -/
def toExtended? : Double → Option Extended
  | nan => none
  | infinity true => some .negInfinity
  | infinity false => some .posInfinity
  | finite negative m e =>
    some (.value ((if negative then -(m : Rat) else (m : Rat)) * twoPow e))

/-- Whether a double is a not-a-number. -/
def isNaN : Double → Bool
  | nan => true
  | _ => false

/-- Whether a double is a zero of either sign. -/
def isZero : Double → Bool
  | finite _ m _ => m == 0
  | _ => false

/-- The integer a double stands for, if it is one. -/
def toInt? : Double → Option Int
  | finite negative m e =>
    let magnitude : Option Nat :=
      if 0 ≤ e then some (m * Nat.pow 2 e.toNat)
      else if m % Nat.pow 2 (-e).toNat = 0 then some (m / Nat.pow 2 (-e).toNat)
      else none
    magnitude.map fun n ↦ if negative then -(n : Int) else (n : Int)
  | _ => none

/-- The double of the other sign. -/
def negate : Double → Double
  | nan => nan
  | infinity negative => infinity (!negative)
  | finite negative m e => finite (!negative) m e

/-- Whether a double is an integer. -/
def isInteger (x : Double) : Bool := x.toInt?.isSome

/-- A comparison that fails as soon as one side is a not-a-number. -/
def compare? (test : Extended → Extended → Bool) (a b : Double) : Bool :=
  match a.toExtended?, b.toExtended? with
  | some p, some q => test p q
  | _, _ => false

/-- Whether one double is less than another; nothing is less than a not-a-number. -/
def lt (a b : Double) : Bool := compare? Extended.lt a b

/-- Whether one double is at most another. -/
def le (a b : Double) : Bool := compare? Extended.le a b

/-- Whether two doubles are the same number; the two zeros are. -/
def eq (a b : Double) : Bool := compare? (fun p q ↦ decide (p = q)) a b

/-! ## Rounding -/

/-- The quotient rounded to the nearest integer, ties to the even one. -/
def roundQuotient (n d : Nat) : Nat :=
  let q := n / d
  let r := n % d
  if 2 * r < d then q
  else if d < 2 * r then q + 1
  else if q % 2 = 0 then q else q + 1

/-- The exponent of the greatest power of two that is at most `n / d`. -/
def floorLog2 (n d : Nat) : Int :=
  let l : Int := (Nat.log2 n : Int) - (Nat.log2 d : Int)
  if n * Nat.pow 2 (-l).toNat < d * Nat.pow 2 l.toNat then l - 1 else l

/-- A significand at an exponent, or the infinity when the exponent is out of reach. -/
def pack (negative : Bool) (m : Nat) (e : Int) : Double :=
  if e ≤ maxExponent then .finite negative m e else .infinity negative

/-- The double nearest to `n / d`, ties to the even significand. -/
def ofRatio (negative : Bool) (n d : Nat) : Double :=
  if n = 0 then .finite negative 0 minExponent
  else
    let e := max minExponent (floorLog2 n d - 52)
    let m := roundQuotient (n * Nat.pow 2 (-e).toNat) (d * Nat.pow 2 e.toNat)
    if m < Nat.pow 2 53 then pack negative m e else pack negative (m / 2) (e + 1)

/-- The double nearest to a rational number. -/
def ofRat (q : Rat) : Double := ofRatio (decide (q < 0)) q.num.natAbs q.den

/-- The sum of two doubles, rounded. -/
def add (a b : Double) : Double :=
  match a.toExtended?, b.toExtended? with
  | some (.value p), some (.value q) => ofRat (p + q)
  | some .posInfinity, some .negInfinity | some .negInfinity, some .posInfinity => nan
  | some .posInfinity, some _ | some _, some .posInfinity => infinity false
  | some .negInfinity, some _ | some _, some .negInfinity => infinity true
  | _, _ => nan

/-- The product of a double and a positive integer, rounded. -/
def times (n : Nat) (x : Double) : Double :=
  match x.toExtended? with
  | some (.value q) => ofRat (n * q)
  | _ => x

/-- The double nearest to an integer, if that is not beyond all doubles. -/
def ofInt? (n : Int) : Option Double :=
  match ofRatio (decide (n < 0)) n.natAbs 1 with
  | .infinity _ => none
  | x => some x

/-- The number of decimal digits of a natural number; zero has none. -/
def digitCount (n : Nat) : Nat := if n = 0 then 0 else (Nat.toDigits 10 n).length

/-- The double nearest to `m · 10 ^ e`.  Numbers far outside the range of the doubles are settled
by their order of magnitude alone, without writing their power of ten out. -/
def ofScientific (negative : Bool) (m : Nat) (e : Int) : Double :=
  let magnitude := (digitCount m : Int) + e
  if m = 0 ∨ magnitude < -400 then .finite negative 0 minExponent
  else if 400 < magnitude then .infinity negative
  else if 0 ≤ e then ofRatio negative (m * Nat.pow 10 e.toNat) 1
  else ofRatio negative m (Nat.pow 10 (-e).toNat)

end Double
end Rulebook
