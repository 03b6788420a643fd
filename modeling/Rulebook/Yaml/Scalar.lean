import Rulebook.Yaml.Cursor
import Rulebook.Pattern.Reader

/-!
# The text of YAML scalars

A scalar is written plain, in single or double quotes, or as an indented block.  The readers of this
file give the text that is meant: line ends folded, escapes replaced.
-/

set_option autoImplicit false

namespace Rulebook
namespace Yaml
namespace Reading

/-! ## Quoted scalars -/

/-- What a one-letter escape stands for. -/
def escaped? : Char → Option Nat
  | '0' => some 0x00
  | 'a' => some 0x07
  | 'b' => some 0x08
  | 't' => some 0x09
  | '\t' => some 0x09
  | 'n' => some 0x0a
  | 'v' => some 0x0b
  | 'f' => some 0x0c
  | 'r' => some 0x0d
  | 'e' => some 0x1b
  | ' ' => some 0x20
  | '"' => some 0x22
  | '\\' => some 0x5c
  | '/' => some 0x2f
  | 'N' => some 0x85
  | '_' => some 0xa0
  | 'L' => some 0x2028
  | 'P' => some 0x2029
  | _ => none

/-- How many digits follow the letter of a numeric escape. -/
def escapeDigits? : Char → Option Nat
  | 'x' => some 2
  | 'u' => some 4
  | 'U' => some 8
  | _ => none

/-- A character by its code point; half of a surrogate pair is no character and gets replaced. -/
def charOf (code : Nat) : Reading Char :=
  if 0xd800 ≤ code ∧ code ≤ 0xdfff then return Char.ofNat 0xfffd
  else if code ≤ 0x10ffff then return Char.ofNat code
  else throw (.failed (.codeTooLarge (decide (0x80000000 ≤ code))))

/-- Line ends and the blanks around them inside of quotes.  A document marker is not allowed there. -/
def quotedBreaks : (fuel : Nat) → Reading (List Char)
  | 0 => malformed
  | fuel + 1 => do
    if (← get).isAnyMarker then malformed
    discard (takeWhile fun c ↦ c == ' ' || c == '\t')
    match ← lineBreak with
    | [] => return []
    | b => return b ++ (← quotedBreaks fuel)

/-- Blanks inside of quotes: as they are within a line, and folded around line ends. -/
def quotedSpaces : Reading (List Char) := do
  let spaces ← takeWhile fun c ↦ c == ' ' || c == '\t'
  if (← peek).isNone then malformed
  match ← lineBreak with
  | [] => return spaces
  | b => do
    let breaks ← quotedBreaks ((← get).rest.length + 1)
    if b != ['\n'] then return b ++ breaks
    else if breaks.isEmpty then return [' ']
    else return breaks

/-- Whether a character inside of quotes stands for itself in both kinds of quotes. -/
def isUnquotable (c : Char) : Bool :=
  !(c == '\x27' || c == '"' || c == '\\' || c == ' ' || c == '\t' || isBreak c)

/-- An escape, whose backslash has been consumed. -/
def escape (fuel : Nat) : Reading (List Char) := do
  match ← peek with
  | none => malformed
  | some c =>
    match escaped? c with
    | some code => do
      advance 1
      return [Char.ofNat code]
    | none =>
      match escapeDigits? c with
      | some n => do
        advance 1
        let digits := (← get).rest.take n
        if digits.length = n ∧ digits.all Pattern.Reader.isHex then
          advance n
          return [← charOf (Pattern.Reader.valueIn 16 digits)]
        else malformed
      | none =>
        if isBreak c then
          discard lineBreak
          quotedBreaks fuel
        else malformed

/-- The characters of a quoted scalar up to its closing quote, which is consumed. -/
def quotedChars (double : Bool) : (fuel : Nat) → List Char → Reading (List Char)
  | 0, _ => malformed
  | fuel + 1, done => do
    let done := done ++ (← takeWhile isUnquotable)
    match ← peek, ← peekAt 1 with
    | some '\x27', second =>
      if double then
        advance 1
        quotedChars double fuel (done ++ ['\x27'])
      else if second = some '\x27' then
        advance 2
        quotedChars double fuel (done ++ ['\x27'])
      else
        advance 1
        return done
    | some '"', _ => do
      advance 1
      if double then return done else quotedChars double fuel (done ++ ['"'])
    | some '\\', _ => do
      advance 1
      if double then
        let cs ← escape fuel
        quotedChars double fuel (done ++ cs)
      else quotedChars double fuel (done ++ ['\\'])
    | _, _ => do
      let spaces ← quotedSpaces
      quotedChars double fuel (done ++ spaces)

/-- A quoted scalar, whose opening quote is next. -/
def quoted (double : Bool) : Reading String := do
  advance 1
  let cs ← quotedChars double ((← get).rest.length + 1) []
  return String.ofList cs

/-! ## Block scalars -/

/-- What becomes of the line ends at the end of a block scalar. -/
inductive Chomping where
  | clip | strip | keep
deriving DecidableEq

/-- How line ends at the end are treated, if that is said. -/
def chomping? : Reading (Option Chomping) := do
  match ← peek with
  | some '+' => advance 1; return some .keep
  | some '-' => advance 1; return some .strip
  | _ => return none

/-- The indentation of a block scalar, if it is said. -/
def increment? : Reading (Option Nat) := do
  match ← peek with
  | some c =>
    if c.isDigit then
      if c = '0' then malformed
      advance 1
      return some (c.toNat - 0x30)
    else return none
  | none => return none

/-- What is said about a block scalar on its first line. -/
def blockHeader : Reading (Chomping × Option Nat) := do
  let before ← chomping?
  let increment ← increment?
  let after ← if before.isNone && increment.isSome then chomping? else pure none
  require isSpaceOrEnd
  restOfLine
  return ((before.or after).getD .clip, increment)

/-- The line ends before the first line with text, and the greatest column reached. -/
def blockIndentation : (fuel : Nat) → List Char → (deepest : Nat) → Reading (List Char × Nat)
  | 0, _, _ => malformed
  | fuel + 1, breaks, deepest => do
    skipSpaces
    let deepest := max deepest (← get).column
    match ← lineBreak with
    | [] => return (breaks, deepest)
    | b => blockIndentation fuel (breaks ++ b) deepest

/-- Consumes spaces up to a column. -/
def indentTo (column : Nat) : Reading Unit := do
  let s ← get
  let spaces := (s.rest.take (column - s.column)).takeWhile (· == ' ')
  advance spaces.length

/-- The line ends between lines of text. -/
def blockBreaks (indent : Nat) : (fuel : Nat) → List Char → Reading (List Char)
  | 0, _ => malformed
  | fuel + 1, breaks => do
    indentTo indent
    match ← lineBreak with
    | [] => return breaks
    | b => blockBreaks indent fuel (breaks ++ b)

/-- Whether a character is a space or a tab. -/
def isSpaceOrTab (c : Option Char) : Bool := c == some ' ' || c == some '\t'

/-- The lines of a block scalar.  The answer has the text, the end of its last line and the empty
lines that follow. -/
def blockLines (folded : Bool) (indent : Nat) :
    (fuel : Nat) → (text last breaks : List Char) → Reading (List Char × List Char × List Char)
  | 0, _, _, _ => malformed
  | fuel + 1, text, last, breaks => do
    let s ← get
    if s.column = indent ∧ s.rest ≠ [] then
      let startsBlank := isSpaceOrTab s.rest.head?
      let line ← takeWhile (!isBreak ·)
      let last ← lineBreak
      let following ← blockBreaks indent (s.rest.length + 1) []
      let t ← get
      let text := text ++ breaks ++ line
      if t.column = indent ∧ t.rest ≠ [] then
        let joint :=
          if folded && last == ['\n'] && !startsBlank && !isSpaceOrTab t.rest.head? then
            if following.isEmpty then [' '] else []
          else last
        blockLines folded indent fuel (text ++ joint) last following
      else return (text, last, following)
    else return (text, last, breaks)

/-- A block scalar, whose indicator is next.  The indentation is that of the surrounding block. -/
def block (folded : Bool) (parent : Int) : Reading String := do
  advance 1
  let (chomping, increment) ← blockHeader
  let least := (max (parent + 1) 1).toNat
  let fuel := (← get).rest.length + 1
  let (breaks, indent) ← match increment with
    | none => do
      let (breaks, deepest) ← blockIndentation fuel [] 0
      pure (breaks, max least deepest)
    | some n => do
      let indent := least + n - 1
      pure (← blockBreaks indent fuel [], indent)
  let (text, last, following) ← blockLines folded indent fuel [] [] breaks
  return String.ofList (text ++ (match chomping with
    | .strip => []
    | .clip => last
    | .keep => last ++ following))

/-! ## Plain scalars -/

/-- Whether a character ends a plain scalar, or a line of it. -/
def endsPlain (inFlow : Bool) (c : Char) (second : Option Char) : Bool :=
  isBlankOrEnd (some c) ||
    (c == ':' && (isBlankOrEnd second ||
      (inFlow && second.any fun d ↦ [',', '[', ']', '{', '}'].contains d))) ||
    (inFlow && [',', '?', '[', ']', '{', '}'].contains c)

/-- The characters of a plain scalar before the next blank. -/
def plainWord (inFlow : Bool) : List Char → List Char
  | [] => []
  | c :: r => if endsPlain inFlow c r.head? then [] else c :: plainWord inFlow r

/-- Line ends and spaces inside of a plain scalar; nothing when a document marker ends it. -/
def plainBreaks : (fuel : Nat) → List Char → Reading (Option (List Char))
  | 0, _ => malformed
  | fuel + 1, breaks => do
    if (← get).isAnyMarker then return none
    skipSpaces
    match ← lineBreak with
    | [] => return some breaks
    | b => plainBreaks fuel (breaks ++ b)

/-- What separates two words of a plain scalar, and whether that holds a line end; nothing when the
scalar ends there. -/
def plainSpaces : Reading (List Char × Bool) := do
  let spaces ← takeWhile (· == ' ')
  match ← lineBreak with
  | [] => return (spaces, false)
  | b => do
    match ← plainBreaks ((← get).rest.length + 1) [] with
    | none => return ([], true)
    | some breaks =>
      if b != ['\n'] then return (b ++ breaks, true)
      else if breaks.isEmpty then return ([' '], true)
      else return (breaks, true)

/-- The words of a plain scalar.  The second part of the answer says whether a line end comes right
after the last word. -/
def plainWords (inFlow : Bool) (indent : Int) :
    (fuel : Nat) → (text spaces : List Char) → (broken : Bool) → Reading (List Char × Bool)
  | 0, _, _, _ => malformed
  | fuel + 1, text, spaces, broken => do
    if (← peek) = some '#' then return (text, broken)
    else
      match plainWord inFlow (← get).rest with
      | [] => return (text, broken)
      | word => do
        advance word.length
        let text := text ++ spaces ++ word
        let (spaces, broken) ← plainSpaces
        let s ← get
        if spaces.isEmpty || s.rest.head? == some '#' ||
            (!inFlow && decide ((s.column : Int) < indent)) then
          return (text, broken)
        else plainWords inFlow indent fuel text spaces broken

/-- A plain scalar, and whether a line end comes right after it. -/
def plain (inFlow : Bool) (parent : Int) : Reading (String × Bool) := do
  let (cs, broken) ← plainWords inFlow (parent + 1) ((← get).rest.length + 1) [] [] false
  return (String.ofList cs, broken)

end Reading
end Yaml
end Rulebook
