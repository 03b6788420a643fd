import Rulebook.Number.Double
import Rulebook.Text.Blank
import Rulebook.Text.Digit

/-!
# Reading decimal numerals

A numeral is an optional sign, digits with at most one point among, before or after them, and an
optional exponent.  Digits of every script are accepted, and single underscores may separate digits.
Instead of a numeral there may stand the name of an infinity or of the not-a-number, in any case and
with a sign.

`Scientific` is a numeral read: sign, all digits as one natural number, how many of them stood after
the point, and the exponent as written.  `Double.ofText?` rounds it to the nearest double.
-/

set_option autoImplicit false

namespace Rulebook

/-- A decimal numeral: `coefficient · 10 ^ (exponent - fractionDigits)`, with a sign. -/
structure Scientific where
  negative : Bool
  coefficient : Nat
  fractionDigits : Nat
  exponent : Int
deriving DecidableEq

namespace Scientific

/-- The power of ten that the coefficient is multiplied by. -/
def scale (n : Scientific) : Int := n.exponent - n.fractionDigits

end Scientific

namespace Numeral

/-- Every digit replaced by the ASCII digit of its value. -/
def asciiDigits (cs : List Char) : List Char :=
  cs.map fun c ↦
    match Text.digitValue c with
    | some d => Char.ofNat (0x30 + d)
    | none => c

/-- The characters without underscores, provided each underscore stands between two digits. -/
def joinDigitGroups : List Char → Option (List Char)
  | [] => some []
  | ['_'] => none
  | '_' :: _ :: _ => none
  | [c] => some [c]
  | c :: '_' :: d :: r =>
    if c.isDigit && d.isDigit then (joinDigitGroups (d :: r)).map (c :: ·) else none
  | c :: d :: r => (joinDigitGroups (d :: r)).map (c :: ·)

/-- The number that a list of ASCII digits writes in base ten. -/
def digitsValue (cs : List Char) : Nat :=
  cs.foldl (fun n c ↦ 10 * n + (c.toNat - 0x30)) 0

/-- The sign at the front, and what follows it. -/
def takeSign : List Char → Bool × List Char
  | '-' :: r => (true, r)
  | '+' :: r => (false, r)
  | r => (false, r)

/-- The exponent at the end of a numeral: nothing, or the letter, a sign and digits. -/
def exponent? : List Char → Option Int
  | [] => some 0
  | c :: r =>
    if c = 'e' ∨ c = 'E' then
      let (negative, ds) := takeSign r
      if ds.isEmpty || !ds.all Char.isDigit then none
      else some (if negative then -(digitsValue ds : Int) else (digitsValue ds : Int))
    else none

/-- A numeral of ASCII digits after its sign. -/
def unsigned? (negative : Bool) (cs : List Char) : Option Scientific :=
  let whole := cs.takeWhile Char.isDigit
  let rest := cs.dropWhile Char.isDigit
  let (fraction, tail) :=
    match rest with
    | '.' :: r => (r.takeWhile Char.isDigit, r.dropWhile Char.isDigit)
    | r => ([], r)
  if whole.isEmpty && fraction.isEmpty then none
  else
    (exponent? tail).map fun e ↦
      { negative, coefficient := digitsValue (whole ++ fraction)
        fractionDigits := fraction.length, exponent := e }

/-- A numeral of ASCII digits. -/
def scientific? (cs : List Char) : Option Scientific :=
  let (negative, r) := takeSign cs
  unsigned? negative r

end Numeral

namespace Double

/-- The double nearest to a numeral. -/
def ofNumeral (n : Scientific) : Double := ofScientific n.negative n.coefficient n.scale

/-- A special value by its name, after the sign. -/
def special? (negative : Bool) (name : List Char) : Option Double :=
  let lower := String.ofList (name.map Char.toLower)
  if lower = "inf" ∨ lower = "infinity" then some (.infinity negative)
  else if lower = "nan" then some .nan
  else none

/-- Reads a double from a text; blanks around it do not count. -/
def ofText? (s : String) : Option Double :=
  let cs := Numeral.asciiDigits (Text.trimChars s.toList)
  let (negative, r) := Numeral.takeSign cs
  match special? negative r with
  | some x => some x
  | none => do
    let joined ← if cs.contains '_' then Numeral.joinDigitGroups cs else some cs
    let n ← Numeral.scientific? joined
    return ofNumeral n

end Double
end Rulebook
