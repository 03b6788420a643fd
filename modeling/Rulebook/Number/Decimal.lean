import Rulebook.Number.Numeral

/-!
# Decimal numbers that keep their digits

A decimal is a sign, a coefficient and a power of ten, and `1.50` and `1.5` are two decimals that
stand for one number.  There are infinities, quiet not-a-numbers and signalling ones; the latter two
may carry digits.

`text` writes a decimal in plain notation when its exponent is not positive and its first digit
stands no more than six places after the point, and else with an exponent.
-/

set_option autoImplicit false

namespace Rulebook

/-- A decimal number.  The value of `finite s c e` is `c · 10 ^ e`, negated when `s`. -/
inductive Decimal where
  | finite (negative : Bool) (coefficient : Nat) (exponent : Int)
  | infinity (negative : Bool)
  | nan (negative : Bool) (signalling : Bool) (payload : Nat)
deriving DecidableEq

namespace Decimal

/-- Ten to an integer power, as a rational number. -/
def tenPow (e : Int) : Rat :=
  if 0 ≤ e then (Nat.pow 10 e.toNat : Rat) else mkRat 1 (Nat.pow 10 (-e).toNat)

/-- The number a decimal stands for; there is none for a not-a-number. -/
def toExtended? : Decimal → Option Extended
  | finite negative c e => some (.value ((if negative then -(c : Rat) else (c : Rat)) * tenPow e))
  | infinity true => some .negInfinity
  | infinity false => some .posInfinity
  | nan .. => none

/-- Whether a decimal is a signalling not-a-number, which no comparison accepts. -/
def isSignalling : Decimal → Bool
  | nan _ signalling _ => signalling
  | _ => false

/-- Whether a decimal is a zero. -/
def isZero : Decimal → Bool
  | finite _ c _ => c == 0
  | _ => false

/-- The double nearest to a decimal. -/
def toDouble : Decimal → Double
  | finite negative c e => Double.ofScientific negative c e
  | infinity negative => .infinity negative
  | nan .. => .nan

/-- The digits `ds` times ten to the power `e`, in plain notation or with an exponent. -/
def layout (ds : List Char) (e : Int) : List Char :=
  let point := (ds.length : Int) + e
  if e ≤ 0 ∧ -6 < point then
    if e = 0 then ds
    else if point ≤ 0 then '0' :: '.' :: (List.replicate (-point).toNat '0' ++ ds)
    else ds.take point.toNat ++ '.' :: ds.drop point.toNat
  else
    let x := point - 1
    let fraction := if ds.length ≤ 1 then [] else '.' :: ds.drop 1
    ds.take 1 ++ fraction ++ 'E' :: (if x < 0 then '-' else '+') :: Nat.toDigits 10 x.natAbs

/-- The text of a decimal. -/
def text : Decimal → String
  | finite negative c e =>
    String.ofList ((if negative then ['-'] else []) ++ layout (Nat.toDigits 10 c) e)
  | infinity negative => if negative then "-Infinity" else "Infinity"
  | nan negative signalling payload =>
    (if negative then "-" else "") ++ (if signalling then "sNaN" else "NaN") ++
      (if payload = 0 then "" else String.ofList (Nat.toDigits 10 payload))

/-- A special value by its name in lower case, after the sign. -/
def special? (negative : Bool) (name : List Char) : Option Decimal :=
  let quiet := ['n', 'a', 'n']
  let signalling := ['s', 'n', 'a', 'n']
  if name = "inf".toList ∨ name = "infinity".toList then some (.infinity negative)
  else if quiet.isPrefixOf name && (name.drop 3).all Char.isDigit then
    some (.nan negative false (Numeral.digitsValue (name.drop 3)))
  else if signalling.isPrefixOf name && (name.drop 4).all Char.isDigit then
    some (.nan negative true (Numeral.digitsValue (name.drop 4)))
  else none

/-- Reads a decimal from a text; blanks around it and underscores do not count. -/
def ofText? (s : String) : Option Decimal :=
  let cs := Numeral.asciiDigits ((Text.trimChars s.toList).filter (· != '_'))
  let (negative, r) := Numeral.takeSign cs
  match special? negative (r.map Char.toLower) with
  | some d => some d
  | none => (Numeral.unsigned? negative r).map fun n ↦ .finite n.negative n.coefficient n.scale

end Decimal
end Rulebook
