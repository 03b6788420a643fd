import Rulebook.Text.Printable

/-!
# Quoted text and quoted bytes

Inside a composite value a text is shown quoted, so that its borders and its invisible characters
can be seen.  Quotes are apostrophes, unless the text holds an apostrophe and no double quote.  The
quote in use and the backslash are written with a backslash before them, tab, newline and carriage
return by their letters, and every other character that is not printable by its code point in
hexadecimal: two digits after `\x`, four after `\u`, eight after `\U`.

Bytes are quoted the same way after the letter `b`; of them the printable ASCII ones stand for
themselves.
-/

set_option autoImplicit false

namespace Rulebook
namespace Text

/-- The apostrophe. -/
def apostrophe : Char := '\x27'

/-- The double quote. -/
def doubleQuote : Char := '\x22'

/-- The backslash. -/
def backslash : Char := '\x5c'

/-- A digit of a lower-case hexadecimal numeral. -/
def hexDigit (n : Nat) : Char :=
  if n < 10 then Char.ofNat (0x30 + n) else Char.ofNat (0x57 + n)

/-- The last `width` hexadecimal digits of a number, leading zeros kept. -/
def hexDigits : Nat → Nat → List Char
  | 0, _ => []
  | width + 1, n => hexDigits width (n / 16) ++ [hexDigit (n % 16)]

/-- The quote to put around characters. -/
def quoteFor (cs : List Char) : Char :=
  if cs.contains apostrophe && !cs.contains doubleQuote then doubleQuote else apostrophe

/-- How one character is written between the quotes `q`. -/
def escapeChar (q c : Char) : List Char :=
  if c = q ∨ c = backslash then [backslash, c]
  else if c = '\n' then [backslash, 'n']
  else if c = '\r' then [backslash, 'r']
  else if c = '\t' then [backslash, 't']
  else if isPrintable c then [c]
  else if c.toNat < 0x100 then backslash :: 'x' :: hexDigits 2 c.toNat
  else if c.toNat < 0x10000 then backslash :: 'u' :: hexDigits 4 c.toNat
  else backslash :: 'U' :: hexDigits 8 c.toNat

/-- The quoted form of characters. -/
def quoteChars (cs : List Char) : List Char :=
  quoteFor cs :: (cs.flatMap (escapeChar (quoteFor cs)) ++ [quoteFor cs])

/-- The quoted form of a text. -/
def quote (s : String) : String := String.ofList (quoteChars s.toList)

/-- How one byte is written between the quotes `q`. -/
def escapeByte (q : Char) (b : UInt8) : List Char :=
  let c := Char.ofNat b.toNat
  if c = q ∨ c = backslash then [backslash, c]
  else if c = '\n' then [backslash, 'n']
  else if c = '\r' then [backslash, 'r']
  else if c = '\t' then [backslash, 't']
  else if 0x20 ≤ b.toNat ∧ b.toNat < 0x7f then [c]
  else backslash :: 'x' :: hexDigits 2 b.toNat

/-- The quoted form of bytes. -/
def quoteBytes (bs : List UInt8) : String :=
  let q := quoteFor (bs.map fun b ↦ Char.ofNat b.toNat)
  String.ofList ('b' :: q :: (bs.flatMap (escapeByte q) ++ [q]))

end Text
end Rulebook
