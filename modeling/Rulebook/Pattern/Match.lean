import Rulebook.Pattern

/-!
# Matching patterns

`Pattern.run p k s` matches `p` at the place `s` and goes on with `k` behind it.  When `k` refuses,
the next way of matching `p` is tried; the ways are tried in the order that greed and the order of
alternatives give.  The answer is the place at which the whole match ended.

A repetition stops once a round has matched nothing, so the number of rounds is bounded by the least
number asked for and the characters that are left: that bound is the fuel of the loops.
-/

set_option autoImplicit false

namespace Rulebook
namespace Pattern

/-- A place in a text, and what the groups have captured on the way there. -/
structure Place where
  /-- What stands before, last character first. -/
  before : List Char
  rest : List Char
  /-- The number of characters before. -/
  offset : Nat
  captured : List (Nat × List Char)

namespace Place

/-- The place before the first character. -/
def start (cs : List Char) : Place := ⟨[], cs, 0, []⟩

/-- The place after some characters that are there. -/
def forward (s : Place) (n : Nat) : Place :=
  { s with before := (s.rest.take n).reverse ++ s.before, rest := s.rest.drop n
           offset := s.offset + n }

/-- The place some characters earlier, if there are so many. -/
def back? (s : Place) (n : Nat) : Option Place :=
  if n ≤ s.offset then
    some { s with before := s.before.drop n, rest := (s.before.take n).reverse ++ s.rest
                  offset := s.offset - n }
  else none

/-- What a group has captured. -/
def capture? (s : Place) (index : Nat) : Option (List Char) := s.captured.lookup index

/-- The place with the characters since an earlier place kept for a group. -/
def keep (s : Place) (index : Nat) (since : Place) : Place :=
  { s with captured :=
      (index, since.rest.take (s.offset - since.offset)) :: s.captured.filter (·.1 != index) }

end Place

/-- Whether a place satisfies an anchor.  A text without characters has no words and no place that
could be beside one. -/
def Anchor.holds (a : Anchor) (s : Place) : Bool :=
  match a with
  | .textStart => s.before.isEmpty
  | .lineStart => s.before.isEmpty || s.before.head? == some '\n'
  | .textEnd => s.rest.isEmpty
  | .lastLineEnd => s.rest.isEmpty || s.rest == ['\n']
  | .lineEnd => s.rest.isEmpty || s.rest.head? == some '\n'
  | .wordEdge ascii negated =>
    let isWord (c : Option Char) : Bool := c.any (CharKind.word.holds ascii)
    if s.before.isEmpty && s.rest.isEmpty then false
    else (isWord s.before.head? != isWord s.rest.head?) != negated

/-- What is left after a text, compared letter by letter. -/
def afterText (rule : CaseRule) : List Char → List Char → Bool
  | [], _ => true
  | _, [] => false
  | c :: cs, d :: ds =>
    rule.form c.toNat == rule.form d.toNat && afterText rule cs ds

/-- A way to go on from a place. -/
abbrev Goal := Place → Option Place

/-- Whether one more round may follow. -/
def mayRepeat (most : Option Nat) (count : Nat) : Bool :=
  match most with
  | some m => decide (count < m)
  | none => true

/-- Rounds of a repetition that tries many rounds first.  `last` is where the round before this one
began, if it was not one of those that are required. -/
def greedyRounds (body : Goal → Goal) (least : Nat) (most : Option Nat) (k : Goal) :
    (fuel count : Nat) → (last : Option Nat) → Goal
  | 0, _, _, _ => none
  | fuel + 1, count, last, s =>
    if count < least then body (greedyRounds body least most k fuel (count + 1) last) s
    else if mayRepeat most count && last != some s.offset then
      match body (greedyRounds body least most k fuel (count + 1) (some s.offset)) s with
      | some r => some r
      | none => k s
    else k s

/-- Rounds of a repetition that tries few rounds first. -/
def lazyRounds (body : Goal → Goal) (least : Nat) (most : Option Nat) (k : Goal) :
    (fuel count : Nat) → (last : Option Nat) → Goal
  | 0, _, _, _ => none
  | fuel + 1, count, last, s =>
    if count < least then body (lazyRounds body least most k fuel (count + 1) last) s
    else
      match k s with
      | some r => some r
      | none =>
        if mayRepeat most count && last != some s.offset then
          body (lazyRounds body least most k fuel (count + 1) (some s.offset)) s
        else none

/-- The place after as many rounds as possible, each matched in its first way. -/
def possessiveRounds (body : Goal → Goal) (least : Nat) (most : Option Nat) :
    (fuel count : Nat) → (last : Option Nat) → Goal
  | 0, _, _, _ => none
  | fuel + 1, count, last, s =>
    if count < least then
      match body some s with
      | some r => possessiveRounds body least most fuel (count + 1) last r
      | none => none
    else if mayRepeat most count && last != some s.offset then
      match body some s with
      | some r => possessiveRounds body least most fuel (count + 1) (some s.offset) r
      | none => some s
    else some s

/-- A number of rounds that no repetition exceeds at a place. -/
def roundLimit (least : Nat) (s : Place) : Nat := least + s.rest.length + 2

/-- Matches a pattern at a place and goes on behind it. -/
def run : Pattern → Goal → Goal
  | empty, k, s => k s
  | char set, k, s =>
    match s.rest with
    | c :: _ => if set.holds c then k (s.forward 1) else none
    | [] => none
  | seq p q, k, s => run p (run q k) s
  | alt p q, k, s =>
    match run p k s with
    | some r => some r
    | none => run q k s
  | anchor a, k, s => if Anchor.holds a s then k s else none
  | group index p, k, s => run p (fun t ↦ k (t.keep index s)) s
  | reference index rule _ _, k, s =>
    match s.capture? index with
    | none => none
    | some cs => if afterText rule cs s.rest then k (s.forward cs.length) else none
  | repeated .greedy least most p, k, s =>
    greedyRounds (run p) least most k (roundLimit least s) 0 none s
  | repeated .lazy least most p, k, s =>
    lazyRounds (run p) least most k (roundLimit least s) 0 none s
  | repeated .possessive least most p, k, s =>
    match possessiveRounds (run p) least most (roundLimit least s) 0 none s with
    | some t => k t
    | none => none
  | look behind negated p, k, s =>
    match (if behind then s.back? p.width.low else some s) with
    | none => if negated then k s else none
    | some t =>
      match run p some t with
      | some r => if negated then none else k { s with captured := r.captured }
      | none => if negated then k s else none
  | atomic p, k, s =>
    match run p some s with
    | some t => k t
    | none => none
  | branch index p q, k, s =>
    match s.capture? index with
    | some _ => run p k s
    | none => run q k s

/-- Whether a pattern matches at a place. -/
def matchesAt (p : Pattern) (s : Place) : Bool := (run p some s).isSome

/-- Whether a pattern matches the beginning of a text. -/
def matchesStart (p : Pattern) (text : String) : Bool := p.matchesAt (.start text.toList)

/-- Whether a pattern matches somewhere from a place on; `n` characters are left. -/
def isFoundFrom (p : Pattern) : (n : Nat) → Place → Bool
  | 0, s => p.matchesAt s
  | n + 1, s => p.matchesAt s || isFoundFrom p n (s.forward 1)

/-- Whether a pattern matches somewhere in a text. -/
def isFoundIn (p : Pattern) (text : String) : Bool :=
  p.isFoundFrom text.toList.length (.start text.toList)

end Pattern
end Rulebook
