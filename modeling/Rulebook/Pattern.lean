import Rulebook.Text.Blank
import Rulebook.Text.Digit
import Rulebook.Text.Word
import Rulebook.Text.LetterCase

/-!
# Patterns

A `Pattern` describes a set of texts, in the way regular expressions do.  Besides characters,
sequences, alternatives and repetitions there are anchors, captured groups and references to what
they captured, looks ahead and behind, groups that are not entered a second time, and branches on
whether a group has captured anything.

This file has the type, what a single character has to satisfy (`CharSet.holds`), and the widths of
the texts a pattern can match (`Pattern.width`), on which looking behind depends.  Matching is in
`Rulebook.Pattern.Match` and the written form in `Rulebook.Pattern.Reader`.
-/

set_option autoImplicit false

namespace Rulebook

/-! ## Sets of characters -/

/-- How letters are compared: as they are, or without regard to case, either in every script or in
ASCII only. -/
inductive CaseRule where
  | exact
  | anyCase
  | anyCaseAscii
deriving DecidableEq

/-- The code points that count as the same letter. -/
def CaseRule.variants : CaseRule → Nat → List Nat
  | exact, n => [n]
  | anyCase, n => Text.caseVariants n
  | anyCaseAscii, n => Text.asciiCaseVariants n

/-- The code point by which two letters are compared. -/
def CaseRule.form : CaseRule → Nat → Nat
  | exact, n => n
  | anyCase, n => Text.lowerCode n
  | anyCaseAscii, n => Text.asciiLowerCode n

/-- The kinds of characters that have a name in patterns. -/
inductive CharKind where
  | digit
  | space
  | word
deriving DecidableEq

/-- Whether a character is of a kind, either in every script or in ASCII only. -/
def CharKind.holds : CharKind → (ascii : Bool) → Char → Bool
  | digit, false, c => Text.isDecimalDigit c
  | space, false, c => Text.isBlank c
  | word, false, c => Text.isWordChar c
  | digit, true, c => c.isDigit
  | space, true, c => c == ' ' || (decide (0x09 ≤ c.toNat) && decide (c.toNat ≤ 0x0d))
  | word, true, c => c.isAlphanum || c == '_'

/-- One entry of a set of characters. -/
inductive CharItem where
  /-- The code points between two bounds, both included. -/
  | range (low high : Nat)
  /-- The characters of a kind, or all others. -/
  | kind (k : CharKind) (ascii negated : Bool)
deriving DecidableEq

/-- Whether an entry holds a character. -/
def CharItem.holds (rule : CaseRule) (c : Char) : CharItem → Bool
  | range low high => (rule.variants c.toNat).any fun n ↦ decide (low ≤ n) && decide (n ≤ high)
  | kind k ascii negated => k.holds ascii c != negated

/-- A set of characters: what its entries hold, or what none of them holds. -/
structure CharSet where
  negated : Bool
  rule : CaseRule
  items : List CharItem
deriving DecidableEq

namespace CharSet

/-- Whether a set holds a character. -/
def holds (s : CharSet) (c : Char) : Bool := s.items.any (·.holds s.rule c) != s.negated

/-- The set of one code point. -/
def single (rule : CaseRule) (n : Nat) : CharSet := ⟨false, rule, [.range n n]⟩

/-- Every character, or every character but the line feed. -/
def any (lineFeed : Bool) : CharSet := ⟨true, .exact, if lineFeed then [] else [.range 0x0a 0x0a]⟩

end CharSet

/-! ## Patterns -/

/-- A condition on a place in the text. -/
inductive Anchor where
  | textStart
  | lineStart
  | textEnd
  /-- At the end, or before a line feed that ends the text. -/
  | lastLineEnd
  | lineEnd
  /-- Between a word character and another, or (negated) not there. -/
  | wordEdge (ascii negated : Bool)
deriving DecidableEq

/-- Which numbers of repetitions are tried first, and whether others are tried at all. -/
inductive Appetite where
  | greedy
  | lazy
  | possessive
deriving DecidableEq

/-- A pattern. -/
inductive Pattern where
  | empty
  | char (set : CharSet)
  | seq (first second : Pattern)
  | alt (first second : Pattern)
  | anchor (a : Anchor)
  /-- A group, whose text is kept under a number. -/
  | group (index : Nat) (body : Pattern)
  /-- The text a group has captured, whose width is known to lie between two bounds. -/
  | reference (index : Nat) (rule : CaseRule) (low : Nat) (high : Option Nat)
  | repeated (appetite : Appetite) (least : Nat) (most : Option Nat) (body : Pattern)
  /-- What follows (or, with `behind`, precedes) must match, or must not. -/
  | look (behind negated : Bool) (body : Pattern)
  /-- Once matched, no other way of matching is tried. -/
  | atomic (body : Pattern)
  /-- Depending on whether a group has captured something. -/
  | branch (index : Nat) (yes no : Pattern)

namespace Pattern

/-- One pattern after another. -/
def sequence : List Pattern → Pattern
  | [] => .empty
  | [p] => p
  | p :: r => .seq p (sequence r)

/-- Several alternatives, of which earlier ones are tried first. -/
def alternatives : List Pattern → Pattern
  | [] => .empty
  | [p] => p
  | p :: r => .alt p (alternatives r)

/-! ## Widths -/

/-- The bounds of the lengths of the texts a pattern can match; there may be no upper bound. -/
structure Width where
  low : Nat
  high : Option Nat
deriving DecidableEq

namespace Width

/-- The sum of two upper bounds. -/
def addHigh : Option Nat → Option Nat → Option Nat
  | some a, some b => some (a + b)
  | _, _ => none

/-- The greater of two upper bounds. -/
def maxHigh : Option Nat → Option Nat → Option Nat
  | some a, some b => some (max a b)
  | _, _ => none

/-- The upper bound of a repetition. -/
def timesHigh : Option Nat → Option Nat → Option Nat
  | some 0, _ => some 0
  | some a, some n => some (a * n)
  | none, some 0 => some 0
  | _, _ => none

/-- The width of what matches both ways. -/
def union (a b : Width) : Width := ⟨min a.low b.low, maxHigh a.high b.high⟩

end Width

/-- The width of a pattern. -/
def width : Pattern → Width
  | empty | anchor _ | look .. => ⟨0, some 0⟩
  | char _ => ⟨1, some 1⟩
  | seq p q => ⟨p.width.low + q.width.low, Width.addHigh p.width.high q.width.high⟩
  | alt p q => p.width.union q.width
  | group _ p | atomic p => p.width
  | reference _ _ low high => ⟨low, high⟩
  | repeated _ least most p =>
    ⟨least * p.width.low, Width.timesHigh p.width.high most⟩
  | branch _ p q => p.width.union q.width

/-- How far behind it is possible to look. -/
def maxLookBehind : Nat := 4294967295

/-- Whether every look behind is of one width. -/
def looksAreFixed : Pattern → Bool
  | empty | anchor _ | char _ | reference .. => true
  | seq p q | alt p q | branch _ p q => p.looksAreFixed && q.looksAreFixed
  | group _ p | atomic p | repeated _ _ _ p => p.looksAreFixed
  | look behind _ p =>
    p.looksAreFixed &&
      (!behind || (p.width.high == some p.width.low && decide (p.width.low ≤ maxLookBehind)))

/-- Whether anything is repeated. -/
def hasRepetition : Pattern → Bool
  | empty | anchor _ | char _ | reference .. => false
  | seq p q | alt p q | branch _ p q => p.hasRepetition || q.hasRepetition
  | group _ p | atomic p | look _ _ p => p.hasRepetition
  | repeated .. => true

end Pattern
end Rulebook
