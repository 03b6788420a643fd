import Rulebook.Failure

/-!
# Reading a YAML document character by character

A `Cursor` is a place in a document: what is left of it, and the line and column, on which the
structure of YAML depends.  `Reading` is a computation that moves a cursor and may refuse the
document.

Lines end with a line feed, a carriage return, both, the next-line control, or one of the two Unicode
separators; only the separators are kept as they are when a line end is part of a text.
-/

set_option autoImplicit false

namespace Rulebook
namespace Yaml

/-- A place in a document. -/
structure Cursor where
  rest : List Char
  /-- The number of characters before. -/
  index : Nat
  line : Nat
  column : Nat

/-! ## Characters -/

/-- Whether a character ends a line. -/
def isBreak (c : Char) : Bool :=
  c == '\n' || c == '\r' || c.toNat == 0x85 || c.toNat == 0x2028 || c.toNat == 0x2029

/-- Whether there is a line end or the end of the document. -/
def isBreakOrEnd : Option Char → Bool
  | none => true
  | some c => isBreak c

/-- Whether there is a space, a line end or the end of the document. -/
def isSpaceOrEnd : Option Char → Bool
  | none => true
  | some c => c == ' ' || isBreak c

/-- Whether there is a space, a tab, a line end or the end of the document. -/
def isBlankOrEnd : Option Char → Bool
  | none => true
  | some c => c == ' ' || c == '\t' || isBreak c

/-- Whether a character may occur in a document at all. -/
def isAllowed (c : Char) : Bool :=
  let n := c.toNat
  n == 0x09 || n == 0x0a || n == 0x0d || n == 0x85 || (decide (0x20 ≤ n) && decide (n ≤ 0x7e)) ||
    (decide (0xa0 ≤ n) && decide (n ≤ 0xfffd)) || decide (0x10000 ≤ n)

/-- Whether a character may occur in the name of an anchor or a tag handle. -/
def isNameChar (c : Char) : Bool := c.isAlphanum || c == '-' || c == '_'

/-- The mark that may stand before a document. -/
def byteOrderMark : Char := Char.ofNat 0xfeff

/-! ## Moving -/

namespace Cursor

/-- The place before the first character. -/
def start (cs : List Char) : Cursor := ⟨cs, 0, 0, 0⟩

/-- The place after one more character. -/
def next (s : Cursor) : Cursor :=
  match s.rest with
  | [] => s
  | c :: r =>
    if isBreak c && !(c == '\r' && r.head? == some '\n') then ⟨r, s.index + 1, s.line + 1, 0⟩
    else if c = byteOrderMark then ⟨r, s.index + 1, s.line, s.column⟩
    else ⟨r, s.index + 1, s.line, s.column + 1⟩

/-- The place after some more characters. -/
def advance (s : Cursor) : Nat → Cursor
  | 0 => s
  | n + 1 => s.next.advance n

/-- Whether the line is a document marker made of three of one character. -/
def isMarker (s : Cursor) (c : Char) : Bool :=
  s.rest.take 3 == [c, c, c] && isBlankOrEnd s.rest[3]?

/-- Whether one of the two document markers is next. -/
def isAnyMarker (s : Cursor) : Bool := s.isMarker '-' || s.isMarker '.'

end Cursor

/-- A computation that moves along a document. -/
abbrev Reading := StateT Cursor (Except Refusal)

namespace Reading

/-- Refuses the document. -/
def malformed {α : Type} : Reading α := throw .malformed

/-- The next character. -/
def peek : Reading (Option Char) := return (← get).rest.head?

/-- The character `n` places on. -/
def peekAt (n : Nat) : Reading (Option Char) := return (← get).rest[n]?

/-- Moves on by some characters. -/
def advance (n : Nat) : Reading Unit := modify (·.advance n)

/-- Consumes the characters that pass a test. -/
def takeWhile (test : Char → Bool) : Reading (List Char) := do
  let cs := (← get).rest.takeWhile test
  advance cs.length
  return cs

/-- Consumes spaces. -/
def skipSpaces : Reading Unit := discard (takeWhile (· == ' '))

/-- Consumes what is left of a line, up to its end. -/
def skipLine : Reading Unit := discard (takeWhile (!isBreak ·))

/-- Consumes a comment, if there is one. -/
def skipComment : Reading Unit := do
  if (← peek) = some '#' then skipLine

/-- Consumes a line end, and gives what it stands for in a text; nothing when there is none. -/
def lineBreak : Reading (List Char) := do
  match (← get).rest with
  | '\r' :: '\n' :: _ => advance 2; return ['\n']
  | c :: _ =>
    if isBreak c then
      advance 1
      return [if c.toNat < 0x2028 then '\n' else c]
    else return []
  | [] => return []

/-- Refuses the document unless the next character passes a test. -/
def require (test : Option Char → Bool) : Reading Unit := do
  unless test (← peek) do malformed

/-- Consumes spaces, a comment and the line end behind them, and nothing else. -/
def restOfLine : Reading Unit := do
  skipSpaces
  skipComment
  require isBreakOrEnd
  discard lineBreak

end Reading
end Yaml
end Rulebook
