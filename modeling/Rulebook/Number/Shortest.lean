import Rulebook.Number.Double

/-!
# The shortest decimal text of a double

Among the decimals that round to a double, the text shows one with the fewest digits, and of those
the nearest.  `shortest` tries one digit, two digits, and so on: on each decimal grid it looks at the
two neighbours of the exact value, and keeps those inside the interval of numbers that round to the
double.  Seventeen digits always suffice.

`DecimalStyle` holds the decisions about layout that are independent of this search: where plain
positional notation ends, and how an exponent is written.
-/

set_option autoImplicit false

namespace Rulebook
namespace Double

/-- The interval of numbers that round to a positive double, and the double itself, as fractions
over one denominator. -/
structure RoundingInterval where
  low : Nat
  mid : Nat
  high : Nat
  denominator : Nat
  /-- Whether the ends round to the double as well. -/
  closed : Bool

/-- The interval of numbers that round to `m · 2 ^ e`.  The gap below a power of two is half as wide
as the gap above it. -/
def interval (m : Nat) (e : Int) : RoundingInterval :=
  let scale := Nat.pow 2 (e - 2).toNat
  let below := if m = Nat.pow 2 52 ∧ minExponent < e then 1 else 2
  { low := (4 * m - below) * scale
    mid := 4 * m * scale
    high := (4 * m + 2) * scale
    denominator := Nat.pow 2 (2 - e).toNat
    closed := m % 2 == 0 }

namespace RoundingInterval

/-- The exponent of the greatest power of ten that is at most the middle. -/
def magnitude (i : RoundingInterval) : Int :=
  if i.denominator ≤ i.mid then (digitCount (i.mid / i.denominator) : Int) - 1
  else -(digitCount ((i.denominator + i.mid - 1) / i.mid - 1) : Int)

/-- Whether `d · 10 ^ p` rounds to the double. -/
def holds (i : RoundingInterval) (d : Nat) (p : Int) : Bool :=
  let x := d * i.denominator * Nat.pow 10 p.toNat
  let low := i.low * Nat.pow 10 (-p).toNat
  let high := i.high * Nat.pow 10 (-p).toNat
  if i.closed then decide (low ≤ x) && decide (x ≤ high) else decide (low < x) && decide (x < high)

/-- The multiple of `10 ^ p` that rounds to the double, the nearer one when both neighbours do. -/
def onGrid (i : RoundingInterval) (p : Int) : Option Nat :=
  let n := i.mid * Nat.pow 10 (-p).toNat
  let w := i.denominator * Nat.pow 10 p.toNat
  let d := n / w
  let r := n % w
  match i.holds d p, i.holds (d + 1) p with
  | true, true =>
    some (if 2 * r < w then d else if w < 2 * r then d + 1 else if d % 2 = 0 then d else d + 1)
  | true, false => some d
  | false, true => some (d + 1)
  | false, false => none

end RoundingInterval

/-- Searches the grids from `k` digits on, `fuel` of them. -/
def shortestFrom (i : RoundingInterval) (k : Int) : Nat → Nat × Int
  | 0 => (i.mid / i.denominator, 0)
  | fuel + 1 =>
    let p := i.magnitude - k + 1
    match i.onGrid p with
    | some d => (d, p)
    | none => shortestFrom i (k + 1) fuel

/-- A decimal `d · 10 ^ p` with the fewest digits among those that round to `m · 2 ^ e`. -/
def shortest (m : Nat) (e : Int) : Nat × Int := shortestFrom (interval m e) 1 17

/-- How the digits of a decimal are laid out. -/
structure DecimalStyle where
  /-- Plain notation is used when the point stands after more than this many places … -/
  lowPoint : Int
  /-- … and after at most this many. -/
  highPoint : Int
  /-- What marks the exponent. -/
  mark : Char
  /-- The least number of digits of an exponent. -/
  exponentWidth : Nat

/-- Numbers are shown in plain notation from `0.0001` up to sixteen digits before the point, else
with an exponent of two digits or more. -/
def plainStyle : DecimalStyle := ⟨-4, 16, 'e', 2⟩

/-- Digits without the zeros at their end. -/
def dropTrailingZeros (ds : List Char) : List Char := (ds.reverse.dropWhile (· == '0')).reverse

/-- A numeral of at least `width` digits. -/
def paddedNumeral (width n : Nat) : List Char :=
  let ds := Nat.toDigits 10 n
  List.replicate (width - ds.length) '0' ++ ds

/-- The digits `ds`, read after a point, times ten to the power `point`, in the given style. -/
def layout (style : DecimalStyle) (ds : List Char) (point : Int) : List Char :=
  if style.lowPoint < point ∧ point ≤ style.highPoint then
    if point ≤ 0 then '0' :: '.' :: (List.replicate (-point).toNat '0' ++ ds)
    else if ds.length ≤ point.toNat then
      ds ++ List.replicate (point.toNat - ds.length) '0' ++ ['.', '0']
    else ds.take point.toNat ++ '.' :: ds.drop point.toNat
  else
    let x := point - 1
    let fraction := if ds.length ≤ 1 then [] else '.' :: ds.drop 1
    ds.take 1 ++ fraction ++ style.mark :: (if x < 0 then '-' else '+') ::
      paddedNumeral style.exponentWidth x.natAbs

/-- The shortest text that reads back as the double. -/
def text : Double → String
  | nan => "nan"
  | infinity true => "-inf"
  | infinity false => "inf"
  | finite negative m e =>
    let sign := if negative then ['-'] else []
    if m = 0 then String.ofList (sign ++ ['0', '.', '0'])
    else
      let (d, p) := shortest m e
      let ds := Nat.toDigits 10 d
      String.ofList
        (sign ++ layout plainStyle (dropTrailingZeros ds) ((ds.length : Int) + p))

end Double
end Rulebook
