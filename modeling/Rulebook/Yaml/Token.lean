import Rulebook.Yaml.Scalar

/-!
# The tokens of a YAML document

`tokens` splits a document into indicators and scalars, and finds its block structure: a line that is
indented further than the block around it opens a block, a line that is indented less closes blocks.

Whether a scalar is a key shows only at the colon behind it.  Until then the scalar is a *candidate*
(`KeyCandidate`), which is remembered with its place among the tokens; at the colon the key token,
and perhaps the opening of a block mapping, are put in front of it.  A candidate must end on the line
on which it begins and may be at most 1024 characters long.

When a document is refused, its tokens end with `Token.refused`: what comes before may be reason
enough to refuse it.
-/

set_option autoImplicit false

namespace Rulebook
namespace Yaml

/-- A directive before a document. -/
inductive Directive where
  | version (major minor : Nat)
  | handle (name replacement : String)
  | other

/-- A token. -/
inductive Token where
  | directive (d : Directive)
  | documentStart
  | documentEnd
  | sequenceStart
  | sequenceEnd
  | mappingStart
  | mappingEnd
  | comma
  | blockSequenceStart
  | blockMappingStart
  | blockEnd
  | item
  | key
  | value
  | alias (name : String)
  | anchor (name : String)
  | tag (handle : Option String) (suffix : String)
  | scalar (text : String) (plain : Bool)
  | refused (r : Refusal)

/-! ## Directives, tags and anchors -/

namespace Reading

/-- Whether a character may occur in a tag. -/
def isTagChar (c : Char) : Bool :=
  c.isAlphanum || "-;/?:@&=+$,_.!~*'()[]%".toList.contains c

/-- The bytes of escapes made of a percent sign and two hexadecimal digits. -/
def tagBytes : (fuel : Nat) → Reading (List UInt8)
  | 0 => malformed
  | fuel + 1 => do
    match (← get).rest with
    | '%' :: a :: b :: _ =>
      if Pattern.Reader.isHex a && Pattern.Reader.isHex b then
        advance 3
        return (Pattern.Reader.valueIn 16 [a, b]).toUInt8 :: (← tagBytes fuel)
      else malformed
    | '%' :: _ => malformed
    | _ => return []

/-- The characters of a tag. -/
def tagChars : (fuel : Nat) → Reading (List Char)
  | 0 => malformed
  | fuel + 1 => do
    let cs ← takeWhile fun c ↦ isTagChar c && c != '%'
    if (← peek) = some '%' then
      let bytes ← tagBytes fuel
      match String.fromUTF8? ⟨bytes.toArray⟩ with
      | some s => return cs ++ s.toList ++ (← tagChars fuel)
      | none => malformed
    else return cs

/-- A part of a tag, which must not be empty. -/
def tagText : Reading String := do
  match ← tagChars ((← get).rest.length + 1) with
  | [] => malformed
  | cs => return String.ofList cs

/-- The handle of a tag, whose exclamation mark is next. -/
def tagHandle : Reading String := do
  require (· == some '!')
  advance 1
  if (← peek) = some ' ' then return "!"
  let name ← takeWhile isNameChar
  if (← peek) = some '!' then
    advance 1
    return String.ofList ('!' :: name ++ ['!'])
  else malformed

/-- A tag, whose exclamation mark is next. -/
def tag : Reading Token := do
  let token ← match ← peekAt 1 with
    | some '<' => do
      advance 2
      let suffix ← tagText
      require (· == some '>')
      advance 1
      pure (Token.tag none suffix)
    | c =>
      if isBlankOrEnd c then do
        advance 1
        pure (Token.tag none "!")
      else do
        let word := ((← get).rest.drop 1).takeWhile fun c ↦ !isSpaceOrEnd (some c)
        let handle ← if word.contains '!' then tagHandle else do
          advance 1
          pure "!"
        pure (Token.tag (some handle) (← tagText))
  require isSpaceOrEnd
  return token

/-- The name of an anchor, whose indicator is next. -/
def anchorName : Reading String := do
  advance 1
  let name ← takeWhile isNameChar
  if name.isEmpty then malformed
  require fun c ↦ isBlankOrEnd c || c.any fun d ↦ "?:,]\x7d%@`".toList.contains d
  return String.ofList name

/-- A number in a directive. -/
def directiveNumber : Reading Nat := do
  let ds ← takeWhile Char.isDigit
  if ds.isEmpty then malformed
  if 4300 < ds.length then throw (.failed (.numeralTooLong ds.length))
  return Numeral.digitsValue ds

/-- A directive, whose percent sign is next, with its line. -/
def directive : Reading Directive := do
  advance 1
  let name ← takeWhile isNameChar
  if name.isEmpty then malformed
  require isSpaceOrEnd
  let d ← match String.ofList name with
    | "YAML" => do
      skipSpaces
      let major ← directiveNumber
      require (· == some '.')
      advance 1
      let minor ← directiveNumber
      require isSpaceOrEnd
      pure (Directive.version major minor)
    | "TAG" => do
      skipSpaces
      let handle ← tagHandle
      require (· == some ' ')
      skipSpaces
      let replacement ← tagText
      require isSpaceOrEnd
      pure (Directive.handle handle replacement)
    | _ => do
      skipLine
      pure Directive.other
  restOfLine
  return d

end Reading

/-! ## Finding the structure -/

/-- A scalar or collection that may turn out to be a key. -/
structure KeyCandidate where
  /-- How many tokens come before it. -/
  position : Nat
  /-- Nothing but a key may stand there. -/
  isRequired : Bool
  index : Nat
  line : Nat
  column : Nat

/-- What is known while a document is split into tokens. -/
structure Outline where
  cursor : Cursor
  /-- How many brackets are open. -/
  depth : Nat
  /-- The column of the innermost block, or -1 outside of all blocks. -/
  indent : Int
  /-- The columns of the blocks around it. -/
  outer : List Int
  /-- Whether a key may begin here. -/
  allowKey : Bool
  /-- The candidates, at most one for each number of open brackets. -/
  candidates : List (Nat × KeyCandidate)
  /-- The tokens, last one first. -/
  tokens : List Token

/-- A step of finding the structure. -/
abbrev Outliner := StateT Outline (Except Refusal)

namespace Outliner

/-- Refuses the document. -/
def malformed {α : Type} : Outliner α := throw .malformed

/-- Moves the cursor. -/
def read {α : Type} (r : Reading α) : Outliner α := fun s ↦ do
  let (a, cursor) ← r.run s.cursor
  return (a, { s with cursor })

/-- Adds a token. -/
def emit (t : Token) : Outliner Unit := modify fun s ↦ { s with tokens := t :: s.tokens }

/-- Says whether a key may begin here. -/
def allowKey (b : Bool) : Outliner Unit := modify fun s ↦ { s with allowKey := b }

/-- Puts a token after the first `position` tokens. -/
def insertAt (position : Nat) (t : Token) : Outliner Unit :=
  modify fun s ↦
    let later := s.tokens.length - position
    { s with tokens := s.tokens.take later ++ t :: s.tokens.drop later }

/-- Drops the candidates that cannot be keys any more. -/
def dropStale : Outliner Unit := do
  let s ← get
  let isStale (k : KeyCandidate) : Bool :=
    k.line != s.cursor.line || decide (1024 < s.cursor.index - k.index)
  if s.candidates.any fun e ↦ isStale e.2 && e.2.isRequired then malformed
  set { s with candidates := s.candidates.filter fun e ↦ !isStale e.2 }

/-- Drops the candidate of the current depth. -/
def dropCandidate : Outliner Unit := do
  let s ← get
  match s.candidates.lookup s.depth with
  | none => return ()
  | some k =>
    if k.isRequired then malformed
    set { s with candidates := s.candidates.filter (·.1 != s.depth) }

/-- Takes down a candidate, if a key may begin here. -/
def noteCandidate : Outliner Unit := do
  let s ← get
  if s.allowKey then
    dropCandidate
    let isRequired := s.depth == 0 && s.indent == (s.cursor.column : Int)
    let k : KeyCandidate :=
      ⟨s.tokens.length, isRequired, s.cursor.index, s.cursor.line, s.cursor.column⟩
    modify fun s ↦ { s with candidates := (s.depth, k) :: s.candidates }

/-- The block and those around it that are left when every block beyond a column is closed. -/
def closeBeyond (column : Int) :
    (indent : Int) → (outer : List Int) → List Token → Int × List Int × List Token
  | indent, [], ts => (indent, [], ts)
  | indent, o :: r, ts =>
    if column < indent then closeBeyond column o r (.blockEnd :: ts) else (indent, o :: r, ts)

/-- Closes the blocks beyond a column, unless brackets are open. -/
def closeBlocks (column : Int) : Outliner Unit := do
  let s ← get
  if s.depth = 0 then
    let (indent, outer, tokens) := closeBeyond column s.indent s.outer s.tokens
    set { s with indent, outer, tokens }

/-- Opens a block at a column if it is further in than the current one; says whether it is. -/
def openBlock (column : Nat) : Outliner Bool := do
  let s ← get
  if s.indent < (column : Int) then
    set { s with indent := (column : Int), outer := s.indent :: s.outer }
    return true
  else return false

/-- Skips blanks, comments and line ends before the next token. -/
def skipToToken : (fuel : Nat) → Outliner Unit
  | 0 => malformed
  | fuel + 1 => do
    read Reading.skipSpaces
    read Reading.skipComment
    match ← read Reading.lineBreak with
    | [] => return ()
    | _ => do
      if (← get).depth = 0 then allowKey true
      skipToToken fuel

/-- A token that closes all blocks. -/
def atMargin (t : Outliner Token) : Outliner Unit := do
  closeBlocks (-1)
  dropCandidate
  allowKey false
  emit (← t)

/-- A token of some characters. -/
def indicator (n : Nat) (t : Token) : Outliner Unit := do
  read (Reading.advance n)
  emit t

/-- A token with which a key may begin. -/
def candidate (t : Outliner Token) : Outliner Unit := do
  noteCandidate
  allowKey false
  emit (← t)

/-- An opening bracket. -/
def openBracket (t : Token) : Outliner Unit := do
  noteCandidate
  modify fun s ↦ { s with depth := s.depth + 1, allowKey := true }
  indicator 1 t

/-- A closing bracket. -/
def closeBracket (t : Token) : Outliner Unit := do
  dropCandidate
  let s ← get
  if s.depth = 0 then malformed
  set { s with depth := s.depth - 1, allowKey := false }
  indicator 1 t

/-- A comma between brackets. -/
def comma : Outliner Unit := do
  allowKey true
  dropCandidate
  indicator 1 .comma

/-- The dash before an item, or the question mark before a key; they may open a block. -/
def blockIndicator (opening t : Token) (keyFollows : Bool) : Outliner Unit := do
  let s ← get
  if s.depth = 0 then
    if !s.allowKey then malformed
    if ← openBlock s.cursor.column then emit opening
  allowKey keyFollows
  dropCandidate
  indicator 1 t

/-- The colon between a key and its value. -/
def valueIndicator : Outliner Unit := do
  let s ← get
  match s.candidates.lookup s.depth with
  | some k => do
    set { s with candidates := s.candidates.filter (·.1 != s.depth) }
    insertAt k.position .key
    if s.depth = 0 then
      if ← openBlock k.column then insertAt k.position .blockMappingStart
    allowKey false
  | none => do
    if s.depth = 0 then
      if !s.allowKey then malformed
      if ← openBlock s.cursor.column then emit .blockMappingStart
    allowKey (s.depth == 0)
    dropCandidate
  indicator 1 .value

/-- A block scalar. -/
def blockScalar (folded : Bool) : Outliner Unit := do
  allowKey true
  dropCandidate
  let s ← get
  emit (.scalar (← read (Reading.block folded s.indent)) false)

/-- A plain scalar. -/
def plainScalar : Outliner Unit := do
  noteCandidate
  let s ← get
  let (text, broken) ← read (Reading.plain (s.depth != 0) s.indent)
  allowKey broken
  emit (.scalar text true)

/-- Whether a plain scalar begins with a character. -/
def beginsPlain (inFlow : Bool) (c : Char) (second : Option Char) : Bool :=
  !(isBlankOrEnd (some c) || "-?:,[]\x7b\x7d#&*!|>'\"%@`".toList.contains c) ||
    (!isBlankOrEnd second && (c == '-' || (!inFlow && (c == '?' || c == ':'))))

/-- Adds the next tokens; says whether the document has ended. -/
def step : Outliner Bool := do
  skipToToken ((← get).cursor.rest.length + 1)
  dropStale
  closeBlocks (← get).cursor.column
  let s ← get
  let inFlow := s.depth != 0
  let atStart := s.cursor.column == 0
  match s.cursor.rest with
  | [] => do
    closeBlocks (-1)
    dropCandidate
    return true
  | c :: r => do
    let indicated := inFlow || isBlankOrEnd r.head?
    if c = '%' ∧ atStart then atMargin (return .directive (← read Reading.directive))
    else if atStart && s.cursor.isMarker '-' then
      atMargin (do read (Reading.advance 3); return .documentStart)
    else if atStart && s.cursor.isMarker '.' then
      atMargin (do read (Reading.advance 3); return .documentEnd)
    else if c = '[' then openBracket .sequenceStart
    else if c = '{' then openBracket .mappingStart
    else if c = ']' then closeBracket .sequenceEnd
    else if c = '}' then closeBracket .mappingEnd
    else if c = ',' then comma
    else if c = '-' ∧ isBlankOrEnd r.head? then blockIndicator .blockSequenceStart .item true
    else if c = '?' ∧ indicated then blockIndicator .blockMappingStart .key (!inFlow)
    else if c = ':' ∧ indicated then valueIndicator
    else if c = '*' then candidate (return .alias (← read Reading.anchorName))
    else if c = '&' then candidate (return .anchor (← read Reading.anchorName))
    else if c = '!' then candidate (read Reading.tag)
    else if c = '|' ∧ !inFlow then blockScalar false
    else if c = '>' ∧ !inFlow then blockScalar true
    else if c = '\x27' then candidate (return .scalar (← read (Reading.quoted false)) false)
    else if c = '"' then candidate (return .scalar (← read (Reading.quoted true)) false)
    else if beginsPlain inFlow c r.head? then plainScalar
    else malformed
    return false

/-- The tokens from a place on. -/
def collect : (fuel : Nat) → Outline → List Token
  | 0, s => (Token.refused .malformed :: s.tokens).reverse
  | fuel + 1, s =>
    match StateT.run step s with
    | .error r => (Token.refused r :: s.tokens).reverse
    | .ok (true, s) => s.tokens.reverse
    | .ok (false, s) => collect fuel s

end Outliner

/-- The tokens of a document. -/
def tokens (text : List Char) : List Token :=
  if text.all isAllowed then
    let start := Cursor.start text
    let cursor := if text.head? = some byteOrderMark then start.next else start
    Outliner.collect (text.length + 1) ⟨cursor, 0, -1, [], true, [], []⟩
  else [.refused .malformed]

end Yaml
end Rulebook
