import Rulebook.Failure
import Rulebook.Number.Numeral
import Rulebook.Pattern
import Rulebook.Platform
import Rulebook.Text.Identifier

/-!
# The written form of patterns

`Pattern.read` reads a pattern from a text.  The written form is that of regular expressions: sets in
brackets, the repetitions `*`, `+`, `?` and `{m,n}` with a `?` (lazy) or `+` (possessive) behind
them, groups in parentheses with what `(?` introduces, and escapes.

A text is read as tokens: characters, and characters behind a backslash.  The readers keep what is
left of the tokens in a `Session`, together with the groups seen so far.  Those that call each other
take a fuel; every call consumes a token or is one of at most three that begin at the same token.

A pattern is refused as *malformed*, or with a failure of its own when a number in it is beyond
what patterns support.
-/

set_option autoImplicit false

namespace Rulebook
namespace Pattern

/-- A unit of the written form. -/
inductive Token where
  | plain (c : Char)
  | escaped (c : Char)
  /-- A backslash with nothing behind it. -/
  | dangling
deriving DecidableEq

/-- The tokens of a text. -/
def tokens : List Char → List Token
  | [] => []
  | ['\\'] => [.dangling]
  | '\\' :: c :: r => .escaped c :: tokens r
  | c :: r => .plain c :: tokens r

/-- An option that a pattern may switch. -/
inductive Flag where
  | ignoreCase | multiLine | dotAll | verbose | ascii | unicode | template
deriving DecidableEq

/-- The option of a letter. -/
def Flag.ofChar? : Char → Option Flag
  | 'i' => some .ignoreCase
  | 'm' => some .multiLine
  | 's' => some .dotAll
  | 'x' => some .verbose
  | 'a' => some .ascii
  | 'u' => some .unicode
  | 't' => some .template
  | _ => none

/-- Whether an option chooses a character table. -/
def Flag.isTable (f : Flag) : Bool := f == .ascii || f == .unicode

/-- Options that are on. -/
abbrev Flags := List Flag

namespace Flags

/-- How letters are compared. -/
def caseRule (fs : Flags) : CaseRule :=
  if !fs.contains .ignoreCase then .exact
  else if fs.contains .ascii then .anyCaseAscii else .anyCase

/-- Options with some switched on and some switched off; a new table replaces the old one. -/
def change (fs on off : Flags) : Flags :=
  let kept := if on.any Flag.isTable then fs.filter (!·.isTable) else fs
  (kept ++ on).filter (!off.contains ·)

end Flags

/-- Why a text is no pattern: it does not have the form, or it asks for something that patterns do not
support. -/
inductive Fault where
  | malformed
  /-- A repetition count with too many digits. -/
  | countTooLong (digits : Nat)
  | repetitionTooLarge
  | incompatibleFlags
  /-- A group inside of too many others. -/
  | nestedTooDeep

/-- The failure that a fault ends with; being malformed is none. -/
def Fault.failure? : Fault → Option Failure
  | malformed => none
  | countTooLong digits => some (.numeralTooLong digits)
  | repetitionTooLarge => some .repetitionTooLarge
  | incompatibleFlags => some .incompatibleFlags
  | nestedTooDeep => some (.nestedTooDeep .grouped)

/-- What is known while a pattern is read. -/
structure Session where
  rest : List Token
  /-- The options of the whole pattern. -/
  flags : Flags
  /-- The widths of the groups, by number from one on; a group that is open has none yet. -/
  groups : List (Option Width)
  names : List (String × Nat)
  /-- The groups that branches ask for. -/
  asked : List Nat
  /-- Inside a look behind, the number of groups before it. -/
  behind : Option Nat
  /-- How many groups inside one another may still be opened. -/
  room : Nat

/-- A reader of a part of a pattern. -/
abbrev Reader := StateT Session (Except Fault)

namespace Reader

/-- Refuses the pattern. -/
def malformed {α : Type} : Reader α := throw .malformed

/-- The next token, which stays. -/
def peek : Reader (Option Token) := do
  match (← get).rest with
  | [] => return none
  | .dangling :: _ => malformed
  | t :: _ => return some t

/-- The next token, which is consumed. -/
def next : Reader (Option Token) := do
  match (← get).rest with
  | [] => return none
  | .dangling :: _ => malformed
  | t :: r => do
    modify fun s ↦ { s with rest := r }
    return some t

/-- The next token, which must be there. -/
def require : Reader Token := do
  match ← next with
  | some t => return t
  | none => malformed

/-- Consumes a character if it is next. -/
def accept (c : Char) : Reader Bool := do
  match ← peek with
  | some (.plain d) =>
    if c = d then
      modify fun s ↦ { s with rest := s.rest.drop 1 }
      return true
    else return false
  | _ => return false

/-- Consumes a character, which must be next. -/
def expect (c : Char) : Reader Unit := do
  unless ← accept c do malformed

/-- The plain characters at the front that pass a test, at most `n`. -/
def leading (test : Char → Bool) : (n : Nat) → List Token → List Char
  | n + 1, .plain c :: r => if test c then c :: leading test n r else []
  | _, _ => []

/-- Consumes plain characters that pass a test, at most `n`. -/
def takeWhile (n : Nat) (test : Char → Bool) : Reader (List Char) := do
  let cs := leading test n (← get).rest
  modify fun s ↦ { s with rest := s.rest.drop cs.length }
  discard peek
  return cs

/-- The characters up to a closing one, and what follows it. -/
def splitAt (close : Char) : List Token → Option (List Char × List Token)
  | [] | .dangling :: _ => none
  | .plain c :: r => if c = close then some ([], r) else (splitAt close r).map fun p ↦ (c :: p.1, p.2)
  | .escaped c :: r => (splitAt close r).map fun p ↦ ('\\' :: c :: p.1, p.2)

/-- Consumes the characters up to a closing one, which must be there. -/
def upTo (close : Char) : Reader (List Char) := do
  match splitAt close (← get).rest with
  | none => malformed
  | some (cs, r) => do
    modify fun s ↦ { s with rest := r }
    return cs

/-- Consumes the name of a group. -/
def name (close : Char) : Reader String := do
  let cs ← upTo close
  if Text.isName cs then return String.ofList cs else malformed

/-! ## Groups -/

/-- Whether a group has been closed. -/
def isClosed (index : Nat) : Reader Bool := do
  match (← get).groups[index - 1]? with
  | some (some _) => return decide (1 ≤ index)
  | _ => return false

/-- Refuses a group that a look behind may not refer to. -/
def checkBehind (index : Nat) : Reader Unit := do
  match (← get).behind with
  | none => return ()
  | some known => do
    unless ← isClosed index do malformed
    if known < index then malformed

/-- A reference to a group. -/
def reference (flags : Flags) (index : Nat) : Reader Pattern := do
  unless ← isClosed index do malformed
  checkBehind index
  match (← get).groups[index - 1]? with
  | some (some w) => return .reference index flags.caseRule w.low w.high
  | _ => malformed

/-- Opens a group; the answer is its number. -/
def openGroup (name : Option String) : Reader Nat := do
  let s ← get
  let index := s.groups.length + 1
  match name with
  | none => set { s with groups := s.groups ++ [none] }
  | some n => do
    if (s.names.lookup n).isSome then malformed
    set { s with groups := s.groups ++ [none], names := (n, index) :: s.names }
  return index

/-- Closes a group. -/
def closeGroup (index : Nat) (w : Width) : Reader Unit :=
  modify fun s ↦ { s with groups := s.groups.set (index - 1) (some w) }

/-- Reads what stands inside of parentheses, for which there must be room. -/
def inside (body : Reader Pattern) : Reader Pattern := do
  match (← get).room with
  | 0 => throw .nestedTooDeep
  | room + 1 => do
    modify fun s ↦ { s with room }
    let p ← body
    modify fun s ↦ { s with room := room + 1 }
    return p

/-- The group that a branch asks for, by its name or its number. -/
def askedGroup (cs : List Char) : Reader Nat := do
  if Text.isName cs then
    match (← get).names.lookup (String.ofList cs) with
    | some index => return index
    | none => malformed
  else
    let digits := Numeral.asciiDigits (Text.trimChars cs)
    let unsigned := match digits with
      | '+' :: r => r
      | r => r
    match Numeral.joinDigitGroups unsigned with
    | some ds =>
      if ds.all Char.isDigit && !ds.isEmpty && Numeral.digitsValue ds != 0 then
        let index := Numeral.digitsValue ds
        modify fun s ↦ { s with asked := index :: s.asked }
        return index
      else malformed
    | none => malformed

/-! ## Escapes -/

/-- Whether a character is an octal digit. -/
def isOctal (c : Char) : Bool := decide ('0' ≤ c) && decide (c ≤ '7')

/-- Whether a character is a hexadecimal digit. -/
def isHex (c : Char) : Bool :=
  c.isDigit || (decide ('a' ≤ c) && decide (c ≤ 'f')) || (decide ('A' ≤ c) && decide (c ≤ 'F'))

/-- The value of a hexadecimal digit. -/
def hexValue (c : Char) : Nat :=
  if c.isDigit then c.toNat - 0x30 else c.toLower.toNat - 0x61 + 10

/-- The number that digits of a base write. -/
def valueIn (base : Nat) (cs : List Char) : Nat := cs.foldl (fun n c ↦ base * n + hexValue c) 0

/-- A code point written with exactly `n` hexadecimal digits. -/
def hexCode (n : Nat) : Reader Nat := do
  let cs ← takeWhile n isHex
  if cs.length = n then
    let code := valueIn 16 cs
    if code ≤ 0x10ffff then return code else malformed
  else malformed

/-- The code point of an escape that means the same everywhere. -/
def control? : Char → Option Nat
  | 'a' => some 0x07
  | 'f' => some 0x0c
  | 'n' => some 0x0a
  | 'r' => some 0x0d
  | 't' => some 0x09
  | 'v' => some 0x0b
  | '\\' => some 0x5c
  | _ => none

/-- The entry of an escape that names a kind of character. -/
def kind? (ascii : Bool) : Char → Option CharItem
  | 'd' => some (.kind .digit ascii false)
  | 'D' => some (.kind .digit ascii true)
  | 's' => some (.kind .space ascii false)
  | 'S' => some (.kind .space ascii true)
  | 'w' => some (.kind .word ascii false)
  | 'W' => some (.kind .word ascii true)
  | _ => none

/-- The code point of the character whose name stands in braces. -/
def namedCode [Platform] : Reader Nat := do
  expect '\x7b'
  let cs ← upTo '\x7d'
  match if cs.isEmpty then none else Platform.named? (String.ofList cs) with
  | some c => return c.toNat
  | none => malformed

/-- The code point of an escape by number or by name; `none` when the escape is of another form. -/
def writtenCode? [Platform] (c : Char) : Reader (Option Nat) := do
  if c = 'x' then return some (← hexCode 2)
  else if c = 'u' then return some (← hexCode 4)
  else if c = 'U' then return some (← hexCode 8)
  else if c = 'N' then return some (← namedCode)
  else return none

/-- A set of one code point. -/
def codePattern (flags : Flags) (n : Nat) : Pattern := .char (.single flags.caseRule n)

/-- The anchor of an escape. -/
def anchor? (flags : Flags) : Char → Option Anchor
  | 'A' => some .textStart
  | 'Z' => some .textEnd
  | 'b' => some (.wordEdge (flags.contains .ascii) false)
  | 'B' => some (.wordEdge (flags.contains .ascii) true)
  | _ => none

/-- An escape that begins with a digit other than zero: an octal code or a reference. -/
def numbered (flags : Flags) (c : Char) : Reader Pattern := do
  let second ← takeWhile 1 Char.isDigit
  if isOctal c && second.all isOctal && !second.isEmpty then
    let third ← takeWhile 1 isOctal
    if third.isEmpty then reference flags (valueIn 10 (c :: second))
    else
      let code := valueIn 8 (c :: second ++ third)
      if code ≤ 0o377 then return codePattern flags code else malformed
  else reference flags (valueIn 10 (c :: second))

section

variable [Platform]

/-- An escape outside of a set.  The anchors among them are treated apart. -/
def escape (flags : Flags) (c : Char) : Reader Pattern := do
  match kind? (flags.contains .ascii) c with
  | some item => return .char ⟨false, flags.caseRule, [item]⟩
  | none =>
  match control? c with
  | some n => return codePattern flags n
  | none =>
  match ← writtenCode? c with
  | some n => return codePattern flags n
  | none =>
    if c = '0' then
      let ds ← takeWhile 2 isOctal
      return codePattern flags (valueIn 8 ds)
    else if c.isDigit then numbered flags c
    else if c.isAlpha then malformed
    else return codePattern flags c.toNat

/-- An escape inside of a set. -/
def setEscape (flags : Flags) (c : Char) : Reader CharItem := do
  match kind? (flags.contains .ascii) c with
  | some item => return item
  | none =>
  match (if c = 'b' then some 0x08 else control? c) with
  | some n => return .range n n
  | none =>
  match ← writtenCode? c with
  | some n => return .range n n
  | none =>
    if isOctal c then
      let ds ← takeWhile 2 isOctal
      let code := valueIn 8 (c :: ds)
      if code ≤ 0o377 then return .range code code else malformed
    else if c.isAlphanum then malformed
    else return .range c.toNat c.toNat

/-! ## Sets -/

/-- A bound of a range in a set. -/
def setItem (flags : Flags) : Token → Reader CharItem
  | .plain c => return .range c.toNat c.toNat
  | .escaped c => setEscape flags c
  | .dangling => malformed

/-- The entries of a set up to its closing bracket; the first entry may be such a bracket. -/
def setItems (flags : Flags) : (fuel : Nat) → List CharItem → Reader (List CharItem)
  | 0, _ => malformed
  | fuel + 1, done => do
    let t ← require
    if t = .plain ']' ∧ !done.isEmpty then return done.reverse
    else
      let low ← setItem flags t
      if ← accept '-' then
        let u ← require
        if u = .plain ']' then return (.range 0x2d 0x2d :: low :: done).reverse
        else
          match low, ← setItem flags u with
          | .range a _, .range b _ =>
            if a ≤ b then setItems flags fuel (.range a b :: done) else malformed
          | _, _ => malformed
      else setItems flags fuel (low :: done)

/-- A set, whose opening bracket has been consumed. -/
def charSet (flags : Flags) : Reader Pattern := do
  let negated ← accept '^'
  let items ← setItems flags (← get).rest.length []
  return .char ⟨negated, flags.caseRule, items⟩

end

/-! ## Repetitions -/

/-- The first repetition count that is not supported. -/
def countLimit : Nat := 4294967295

/-- A repetition count.  What follows is looked at before the count is judged. -/
def count (ds : List Char) : Reader Nat := do
  discard peek
  if 4300 < ds.length then throw (.countTooLong ds.length)
  let n := Numeral.digitsValue ds
  if countLimit ≤ n then throw .repetitionTooLarge
  return n

/-- The counts in braces, whose opening brace has been consumed; nothing when there are none and the
brace is a character like others. -/
def counts : Reader (Option (Nat × Option Nat)) := do
  let start ← get
  if (← peek) = some (.plain '}') then return none
  let low ← takeWhile start.rest.length Char.isDigit
  let high ← if ← accept ',' then takeWhile start.rest.length Char.isDigit else pure low
  if ← accept '}' then
    let least ← if low.isEmpty then pure 0 else count low
    if high.isEmpty then return some (least, none)
    let most ← count high
    if most < least then malformed
    return some (least, some most)
  else
    set start
    return none

/-- How a repetition goes about its rounds. -/
def appetite : Reader Appetite := do
  if ← accept '?' then return .lazy
  if ← accept '+' then return .possessive
  return .greedy

/-! ## Options -/

/-- Letters of options up to one of some closing characters, which is the second part. -/
def flagLetters (close : List Char) (allowTable : Bool) :
    (fuel : Nat) → Flags → Char → Reader (Flags × Char)
  | 0, _, _ => malformed
  | fuel + 1, done, c => do
    match Flag.ofChar? c with
    | none => malformed
    | some f => do
      if f.isTable && (!allowTable || done.any fun g ↦ g.isTable && g != f) then malformed
      match ← require with
      | .plain d =>
        if close.contains d then return (f :: done, d)
        else flagLetters close allowTable fuel (f :: done) d
      | _ => malformed

/-- Options behind `(?`, of which the first character has been consumed: options for the whole
pattern, or those to switch on and off in a group. -/
def flagChange (c : Char) : Reader (Flags ⊕ Flags × Flags) := do
  let fuel := (← get).rest.length + 1
  let (on, close) ← if c = '-' then pure ([], c) else flagLetters [')', '-', ':'] true fuel [] c
  if close = ')' then return .inl on
  if on.contains .template then malformed
  let off ← if close = '-' then
      match ← require with
      | .plain d => pure (← flagLetters [':'] false fuel [] d).1
      | _ => malformed
    else pure []
  if off.contains .template || on.any off.contains then malformed
  return .inr (on, off)

end Reader

/-! ## Patterns -/

/-- A part of a sequence. -/
structure Piece where
  body : Pattern
  isAnchor : Bool
  isRepetition : Bool

namespace Piece

/-- A part that may be repeated. -/
def plain (p : Pattern) : Piece := ⟨p, false, false⟩

/-- An anchor, which may not be repeated. -/
def anchored (a : Anchor) : Piece := ⟨.anchor a, true, false⟩

end Piece

/-- The sequence of some parts, last one first. -/
def ofPieces (ps : List Piece) : Pattern := sequence (ps.reverse.map (·.body))

namespace Reader

/-- Puts a repetition in place of the last part. -/
def repeatLast (least : Nat) (most : Option Nat) (done : List Piece) : Reader (List Piece) := do
  match done with
  | [] => malformed
  | p :: r =>
    if p.isAnchor || p.isRepetition then malformed
    else
      let a ← appetite
      return ⟨.repeated a least most p.body, false, true⟩ :: r

/-- Drops what belongs to a comment that ends with the line. -/
def skipLine : List Token → List Token
  | [] => []
  | .dangling :: r => .dangling :: r
  | .plain '\n' :: r => r
  | _ :: r => skipLine r

/-- Whether a character is skipped in a verbose pattern. -/
def isVerboseSpace (c : Char) : Bool :=
  c == ' ' || (decide (0x09 ≤ c.toNat) && decide (c.toNat ≤ 0x0d))

/-- A character that stands for itself, with the anchors and sets that single characters write. -/
def single [Platform] (flags : Flags) (c : Char) : Reader Piece := do
  match c with
  | '.' => return .plain (.char (.any (flags.contains .dotAll)))
  | '^' => return .anchored (if flags.contains .multiLine then .lineStart else .textStart)
  | '$' => return .anchored (if flags.contains .multiLine then .lineEnd else .lastLineEnd)
  | '[' => return .plain (← charSet flags)
  | c => return .plain (codePattern flags c.toNat)

/-- The repetition counts that a character writes, if it does. -/
def repetition? (c : Char) : Reader (Option (Nat × Option Nat)) := do
  match c with
  | '*' => return some (0, none)
  | '+' => return some (1, none)
  | '?' => return some (0, some 1)
  | '{' => counts
  | _ => return none

mutual

/-- Alternatives, up to a closing parenthesis or the end.  The outermost ones follow the options of
the whole pattern. -/
def choices [Platform] (outermost : Bool) (flags : Flags) :
    (fuel : Nat) → List Pattern → Reader Pattern
  | 0, _ => malformed
  | fuel + 1, done => do
    let s ← get
    let current := if outermost then s.flags else flags
    let p ← pieces (outermost && done.isEmpty) current fuel []
    if ← accept '|' then choices outermost flags fuel (p :: done)
    else return alternatives (p :: done).reverse

/-- A sequence, up to a bar, a closing parenthesis or the end.  Only the `first` sequence of a
pattern may set options for the whole. -/
def pieces [Platform] (first : Bool) (flags : Flags) : (fuel : Nat) → List Piece → Reader Pattern
  | 0, _ => malformed
  | fuel + 1, done => do
    match ← peek with
    | none | some .dangling | some (.plain '|') | some (.plain ')') => return ofPieces done
    | some (.escaped c) => do
      discard next
      match anchor? flags c with
      | some a => pieces first flags fuel (.anchored a :: done)
      | none => pieces first flags fuel (.plain (← escape flags c) :: done)
    | some (.plain c) => do
      discard next
      if flags.contains .verbose && isVerboseSpace c then pieces first flags fuel done
      else if flags.contains .verbose && c == '#' then
        modify fun s ↦ { s with rest := skipLine s.rest }
        discard peek
        pieces first flags fuel done
      else if c = '(' then
        if ← accept '?' then extension first flags fuel done
        else
          let index ← openGroup none
          let p ← inside (choices false flags fuel [])
          expect ')'
          closeGroup index p.width
          pieces first flags fuel (.plain (.group index p) :: done)
      else
        match ← repetition? c with
        | some (least, most) => pieces first flags fuel (← repeatLast least most done)
        | none => pieces first flags fuel ((← single flags c) :: done)

/-- What begins with `(?`, and the rest of the sequence. -/
def extension [Platform] (first : Bool) (flags : Flags) : (fuel : Nat) → List Piece → Reader Pattern
  | 0, _ => malformed
  | fuel + 1, done => do
    match ← require with
    | .plain 'P' => do
      match ← require with
      | .plain '<' => do
        let n ← name '>'
        let index ← openGroup (some n)
        let p ← inside (choices false flags fuel [])
        expect ')'
        closeGroup index p.width
        pieces first flags fuel (.plain (.group index p) :: done)
      | .plain '=' => do
        let n ← name ')'
        match (← get).names.lookup n with
        | none => malformed
        | some index => pieces first flags fuel (.plain (← reference flags index) :: done)
      | _ => malformed
    | .plain ':' => do
      let p ← inside (choices false flags fuel [])
      expect ')'
      pieces first flags fuel (.plain p :: done)
    | .plain '>' => do
      let p ← inside (choices false flags fuel [])
      expect ')'
      pieces first flags fuel (.plain (.atomic p) :: done)
    | .plain '#' => do
      discard (upTo ')')
      pieces first flags fuel done
    | .plain '=' => lookAround first flags fuel false false done
    | .plain '!' => lookAround first flags fuel false true done
    | .plain '<' => do
      match ← require with
      | .plain '=' => lookAround first flags fuel true false done
      | .plain '!' => lookAround first flags fuel true true done
      | _ => malformed
    | .plain '(' => do
      let index ← askedGroup (← upTo ')')
      checkBehind index
      let yes ← inside (pieces false flags fuel [])
      if ← accept '|' then
        let no ← inside (pieces false flags fuel [])
        expect ')'
        pieces first flags fuel (.plain (.branch index yes no) :: done)
      else
        expect ')'
        pieces first flags fuel (.plain (.branch index yes .empty) :: done)
    | .plain c => do
      if (Flag.ofChar? c).isNone && c != '-' then malformed
      match ← flagChange c with
      | .inl on => do
        if !first || !done.isEmpty then malformed
        modify fun s ↦ { s with flags := s.flags ++ on }
        let s ← get
        pieces first s.flags fuel done
      | .inr (on, off) => do
        let p ← inside (choices false (flags.change on off) fuel [])
        expect ')'
        pieces first flags fuel (.plain p :: done)
    | _ => malformed

/-- A look ahead or behind, and the rest of the sequence. -/
def lookAround [Platform] (first : Bool) (flags : Flags) (fuel : Nat) (behind negated : Bool)
    (done : List Piece) : Reader Pattern :=
  match fuel with
  | 0 => malformed
  | fuel + 1 => do
    let outer := (← get).behind
    if behind && outer.isNone then
      modify fun s ↦ { s with behind := some s.groups.length }
    let p ← inside (choices false flags fuel [])
    if behind then modify fun s ↦ { s with behind := outer }
    expect ')'
    pieces first flags fuel (.plain (.look behind negated p) :: done)

end
end Reader

variable [Platform]

/-- Reads a pattern. -/
def read (text : String) : Except Fault Pattern := do
  let ts := tokens text.toList
  let (p, s) ← (Reader.choices true [] (4 * ts.length + 4) []).run ⟨ts, [], [], [], [], none,
    Platform.patternDepth⟩
  if s.flags.contains .ascii && s.flags.contains .unicode then throw .incompatibleFlags
  if !s.rest.isEmpty || s.asked.any (s.groups.length < ·) then throw .malformed
  if !p.looksAreFixed || (s.flags.contains .template && p.hasRepetition) then throw .malformed
  return p

/-- The pattern that a text writes; nothing when the text is malformed. -/
def ofText? (text : String) : Except Failure (Option Pattern) :=
  match read text with
  | .ok p => .ok (some p)
  | .error fault =>
    match fault.failure? with
    | none => .ok none
    | some f => .error f

end Pattern
end Rulebook
