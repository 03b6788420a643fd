import Mathlib
import Rulebook.Yaml.Node

/-!
# How a document is refused

Most documents that are refused are malformed.  The others have a part of the right form that stands
for nothing: a code point, a number, a truth value or a moment that does not exist
(`Failure.IsMeaningless`).  No reader fails in any other way: `Refusal.IsProper` holds of what a reader
of characters refuses, of the refusal at the end of the tokens (`Yaml.isProper_of_mem_tokens`) and of
what the reader of nodes refuses (`Yaml.isProper_of_ofTokens_eq_error`).

Each reader has a triple, which says that it refuses properly and keeps what is known of the tokens: a
token that stands for a refusal stands for a proper one.  The triples of the readers that it calls are
used by name or as specifications.
-/

set_option autoImplicit false
set_option mvcgen.warning false

namespace Rulebook

/-! ## Proper refusals -/

/-- A failure of a text that has the form of something and stands for nothing. -/
def Failure.IsMeaningless : Failure → Prop
  | codeTooLarge _ | numeralTooLong _ | emptyNumeral | invalidNumeral .. | invalidFloat _
  | unknownTruth _ | calendar _ => True
  | noAttribute type name => type = "NoneType" ∧ name = "groupdict"
  | _ => False

/-- The families of such failures. -/
theorem Failure.IsMeaningless.kind_mem {f : Failure} (h : f.IsMeaningless) :
    f.kind ∈ [.valueError, .keyError, .index, .missingAttribute, .overflow] := by
  cases f with
  | codeTooLarge beyondWords => cases beyondWords <;> decide
  | numeralTooLong | emptyNumeral | invalidNumeral | invalidFloat | unknownTruth | calendar
  | noAttribute => simp [Failure.kind]
  | _ => exact h.elim

/-- A refusal for the form, or for a part that stands for nothing. -/
def Refusal.IsProper : Refusal → Prop
  | malformed => True
  | failed f => f.IsMeaningless

namespace Yaml

/-- A token that does not stand for an improper refusal. -/
def Token.IsProper : Token → Prop
  | refused r => r.IsProper
  | _ => True

/-- The tokens found so far are proper. -/
def Outline.IsProper (s : Outline) : Prop := ∀ t ∈ s.tokens, t.IsProper

/-- The tokens that are left are proper. -/
def Nodes.IsProper (s : Nodes) : Prop := ∀ t ∈ s.rest, t.IsProper

open Std.Do

section Triple

variable {σ α : Type}

/-- A triple as a statement about runs. -/
theorem triple_iff_run {x : StateT σ (Except Refusal) α} {P : σ → Prop} {Q : α → σ → Prop}
    {E : Refusal → Prop} :
    ⦃fun s ↦ ⌜P s⌝⦄ x ⦃post⟨fun a s ↦ ⌜Q a s⌝, fun r ↦ ⌜E r⌝⟩⦄ ↔
      ∀ s, P s → match x.run s with
        | .ok (a, s') => Q a s'
        | .error r => E r := by
  refine forall_congr' fun s ↦ imp_congr_right fun _ ↦ ?_
  change (wp⟦x.run s⟧ (post⟨fun p ↦ ⌜Q p.1 p.2⌝, fun r ↦ ⌜E r⌝⟩)).down ↔ _
  cases x.run s <;> rfl

/-- The priority puts this before the specification for all monads, which leaves the monad open. -/
@[spec 2000]
theorem throw_spec {r : Refusal} {Q : PostCond α (.arg σ (.except Refusal .pure))} :
    ⦃fun _ ↦ Q.2.1 r⦄ (throw r : StateT σ (Except Refusal) α) ⦃Q⦄ :=
  fun _ h ↦ h

end Triple

/-! ## Readers of characters -/

namespace Reading

/-- Any result, and proper refusals only. -/
abbrev properly {α : Type} : PostCond α (.arg Cursor (.except Refusal .pure)) :=
  post⟨fun _ _ ↦ ⌜True⌝, fun r ↦ ⌜r.IsProper⌝⟩

section Characters

variable {α : Type} (n : Nat) (test : Char → Bool)

@[spec]
theorem malformed_spec : ⦃⌜True⌝⦄ (malformed : Reading α) ⦃properly⦄ := by
  mvcgen [malformed]

@[spec]
theorem discard_spec {x : Reading α} (h : ⦃⌜True⌝⦄ x ⦃properly⦄) :
    ⦃⌜True⌝⦄ discard x ⦃properly⦄ := by
  change ⦃⌜True⌝⦄ Functor.map (Function.const α PUnit.unit) x ⦃_⦄
  mvcgen [h]

@[spec]
theorem peek_spec : ⦃⌜True⌝⦄ peek ⦃properly⦄ := by
  mvcgen [peek]

@[spec]
theorem peekAt_spec : ⦃⌜True⌝⦄ peekAt n ⦃properly⦄ := by
  mvcgen [peekAt]

@[spec]
theorem advance_spec : ⦃⌜True⌝⦄ advance n ⦃properly⦄ := by
  mvcgen [advance]

@[spec]
theorem takeWhile_spec : ⦃⌜True⌝⦄ takeWhile test ⦃properly⦄ := by
  mvcgen [takeWhile]

@[spec]
theorem skipSpaces_spec : ⦃⌜True⌝⦄ skipSpaces ⦃properly⦄ := by
  mvcgen [skipSpaces]

@[spec]
theorem skipLine_spec : ⦃⌜True⌝⦄ skipLine ⦃properly⦄ := by
  mvcgen [skipLine]

@[spec]
theorem skipComment_spec : ⦃⌜True⌝⦄ skipComment ⦃properly⦄ := by
  mvcgen [skipComment]

@[spec]
theorem lineBreak_spec : ⦃⌜True⌝⦄ lineBreak ⦃properly⦄ := by
  mvcgen [lineBreak]

@[spec]
theorem require_spec (test : Option Char → Bool) : ⦃⌜True⌝⦄ require test ⦃properly⦄ := by
  mvcgen [require]

@[spec]
theorem restOfLine_spec : ⦃⌜True⌝⦄ restOfLine ⦃properly⦄ := by
  mvcgen [restOfLine]

end Characters

/-! ### Quoted scalars

This is the first of the two places where a reader fails on its own: an escape may write a number
beyond all code points. -/

section Quoted

variable (double : Bool) (fuel : Nat)

@[spec]
theorem charOf_spec (code : Nat) : ⦃⌜True⌝⦄ charOf code ⦃properly⦄ := by
  mvcgen [charOf]

@[spec]
theorem quotedBreaks_spec : ⦃⌜True⌝⦄ quotedBreaks fuel ⦃properly⦄ := by
  induction fuel with
  | zero => exact malformed_spec
  | succ fuel ih => mvcgen [quotedBreaks, ih]

@[spec]
theorem quotedSpaces_spec : ⦃⌜True⌝⦄ quotedSpaces ⦃properly⦄ := by
  mvcgen [quotedSpaces]

@[spec]
theorem escape_spec : ⦃⌜True⌝⦄ escape fuel ⦃properly⦄ := by
  mvcgen [escape]

@[spec]
theorem quotedChars_spec (done : List Char) :
    ⦃⌜True⌝⦄ quotedChars double fuel done ⦃properly⦄ := by
  induction fuel generalizing done with
  | zero => exact malformed_spec
  | succ fuel ih => mvcgen [quotedChars, ih]

@[spec]
theorem quoted_spec : ⦃⌜True⌝⦄ quoted double ⦃properly⦄ := by
  mvcgen [quoted]

end Quoted

/-! ### Block scalars -/

section Block

variable (folded : Bool) (indent fuel : Nat)

@[spec]
theorem chomping_spec : ⦃⌜True⌝⦄ chomping? ⦃properly⦄ := by
  mvcgen [chomping?]

@[spec]
theorem increment_spec : ⦃⌜True⌝⦄ increment? ⦃properly⦄ := by
  mvcgen [increment?]

@[spec]
theorem blockHeader_spec : ⦃⌜True⌝⦄ blockHeader ⦃properly⦄ := by
  mvcgen [blockHeader]

@[spec]
theorem blockIndentation_spec (breaks : List Char) (deepest : Nat) :
    ⦃⌜True⌝⦄ blockIndentation fuel breaks deepest ⦃properly⦄ := by
  induction fuel generalizing breaks deepest with
  | zero => exact malformed_spec
  | succ fuel ih => mvcgen [blockIndentation, ih]

@[spec]
theorem indentTo_spec : ⦃⌜True⌝⦄ indentTo indent ⦃properly⦄ := by
  mvcgen [indentTo]

@[spec]
theorem blockBreaks_spec (breaks : List Char) :
    ⦃⌜True⌝⦄ blockBreaks indent fuel breaks ⦃properly⦄ := by
  induction fuel generalizing breaks with
  | zero => exact malformed_spec
  | succ fuel ih => mvcgen [blockBreaks, ih]

@[spec]
theorem blockLines_spec (text last breaks : List Char) :
    ⦃⌜True⌝⦄ blockLines folded indent fuel text last breaks ⦃properly⦄ := by
  induction fuel generalizing text last breaks with
  | zero => exact malformed_spec
  | succ fuel ih => mvcgen [blockLines, ih]

@[spec]
theorem block_spec (parent : Int) : ⦃⌜True⌝⦄ block folded parent ⦃properly⦄ := by
  mvcgen [block]

end Block

/-! ### Plain scalars -/

section Plain

variable (inFlow : Bool) (fuel : Nat)

@[spec]
theorem plainBreaks_spec (breaks : List Char) :
    ⦃⌜True⌝⦄ plainBreaks fuel breaks ⦃properly⦄ := by
  induction fuel generalizing breaks with
  | zero => exact malformed_spec
  | succ fuel ih => mvcgen [plainBreaks, ih]

@[spec]
theorem plainSpaces_spec : ⦃⌜True⌝⦄ plainSpaces ⦃properly⦄ := by
  mvcgen [plainSpaces]

@[spec]
theorem plainWords_spec (indent : Int) (text spaces : List Char) (broken : Bool) :
    ⦃⌜True⌝⦄ plainWords inFlow indent fuel text spaces broken ⦃properly⦄ := by
  induction fuel generalizing text spaces broken with
  | zero => exact malformed_spec
  | succ fuel ih => mvcgen [plainWords, ih]

@[spec]
theorem plain_spec (parent : Int) : ⦃⌜True⌝⦄ plain inFlow parent ⦃properly⦄ := by
  mvcgen [plain]

end Plain

/-! ### Directives, tags and anchors

The other place is the number of a version, which may have too many digits. -/

section Directive

variable (fuel : Nat)

@[spec]
theorem tagBytes_spec : ⦃⌜True⌝⦄ tagBytes fuel ⦃properly⦄ := by
  induction fuel with
  | zero => exact malformed_spec
  | succ fuel ih => mvcgen [tagBytes, ih]

@[spec]
theorem tagChars_spec : ⦃⌜True⌝⦄ tagChars fuel ⦃properly⦄ := by
  induction fuel with
  | zero => exact malformed_spec
  | succ fuel ih => mvcgen [tagChars, ih]

@[spec]
theorem tagText_spec : ⦃⌜True⌝⦄ tagText ⦃properly⦄ := by
  mvcgen [tagText]

@[spec]
theorem tagHandle_spec : ⦃⌜True⌝⦄ tagHandle ⦃properly⦄ := by
  mvcgen [tagHandle]

/-- The one reader of characters that gives a token. -/
theorem tag_spec : ⦃⌜True⌝⦄ tag ⦃post⟨fun t _ ↦ ⌜t.IsProper⌝, fun r ↦ ⌜r.IsProper⌝⟩⦄ := by
  mvcgen [tag]

@[spec]
theorem anchorName_spec : ⦃⌜True⌝⦄ anchorName ⦃properly⦄ := by
  mvcgen [anchorName]

@[spec]
theorem directiveNumber_spec : ⦃⌜True⌝⦄ directiveNumber ⦃properly⦄ := by
  mvcgen [directiveNumber]

@[spec]
theorem directive_spec : ⦃⌜True⌝⦄ directive ⦃properly⦄ := by
  mvcgen [directive]

end Directive
end Reading

/-! ## Finding the tokens -/

namespace Outliner

/-- The tokens found so far are proper. -/
abbrev proper : Assertion (.arg Outline (.except Refusal .pure)) := fun s ↦ ⌜s.IsProper⌝

/-- Any result with proper tokens, and proper refusals only. -/
abbrev properly {α : Type} : PostCond α (.arg Outline (.except Refusal .pure)) :=
  post⟨fun _ s ↦ ⌜s.IsProper⌝, fun r ↦ ⌜r.IsProper⌝⟩

/-- A proper token besides. -/
abbrev withToken : PostCond Token (.arg Outline (.except Refusal .pure)) :=
  post⟨fun t s ↦ ⌜t.IsProper ∧ s.IsProper⌝, fun r ↦ ⌜r.IsProper⌝⟩

section Steps

variable {α : Type} {t : Token} (column : Nat)

@[spec]
theorem malformed_spec : ⦃proper⦄ (malformed : Outliner α) ⦃properly⦄ := by
  mvcgen [malformed]

/-- Moving the cursor leaves the tokens as they are. -/
theorem read_of_triple {r : Reading α} {P : α → Prop}
    (h : ⦃⌜True⌝⦄ r ⦃post⟨fun a _ ↦ ⌜P a⌝, fun r ↦ ⌜r.IsProper⌝⟩⦄) :
    ⦃proper⦄ read r ⦃post⟨fun a s ↦ ⌜P a ∧ s.IsProper⌝, fun r ↦ ⌜r.IsProper⌝⟩⦄ := by
  refine triple_iff_run.mpr fun s hs ↦ ?_
  have hrun := triple_iff_run.mp h s.cursor trivial
  have heq : (read r).run s = r.run s.cursor >>= fun p ↦ .ok (p.1, { s with cursor := p.2 }) := rfl
  rw [heq]
  cases hr : r.run s.cursor with
  | error e => rwa [hr] at hrun
  | ok p =>
    rw [hr] at hrun
    exact ⟨hrun, hs⟩

@[spec]
theorem read_spec {r : Reading α} (h : ⦃⌜True⌝⦄ r ⦃Reading.properly⦄) :
    ⦃proper⦄ read r ⦃properly⦄ := by
  have hread := read_of_triple (P := fun _ ↦ True) h
  mvcgen [hread]
  exact id

@[spec 2000]
theorem read_tag_spec : ⦃proper⦄ read Reading.tag ⦃withToken⦄ := read_of_triple Reading.tag_spec

@[spec]
theorem emit_spec : ⦃fun s ↦ ⌜t.IsProper ∧ s.IsProper⌝⦄ emit t ⦃properly⦄ := by
  mvcgen [emit]
  rename_i h _
  exact List.forall_mem_cons.mpr h

@[spec]
theorem allowKey_spec (b : Bool) : ⦃proper⦄ allowKey b ⦃properly⦄ := by
  mvcgen [allowKey]

@[spec]
theorem insertAt_spec (position : Nat) :
    ⦃fun s ↦ ⌜t.IsProper ∧ s.IsProper⌝⦄ insertAt position t ⦃properly⦄ := by
  mvcgen [insertAt]
  rename_i s h _
  intro u hu
  rcases List.mem_append.mp hu with hu | hu
  · exact h.2 u (List.mem_of_mem_take hu)
  · rcases List.mem_cons.mp hu with rfl | hu
    · exact h.1
    · exact h.2 u (List.mem_of_mem_drop hu)

@[spec]
theorem dropStale_spec : ⦃proper⦄ dropStale ⦃properly⦄ := by
  mvcgen [dropStale]

@[spec]
theorem dropCandidate_spec : ⦃proper⦄ dropCandidate ⦃properly⦄ := by
  mvcgen [dropCandidate]

@[spec]
theorem noteCandidate_spec : ⦃proper⦄ noteCandidate ⦃properly⦄ := by
  mvcgen [noteCandidate]

theorem isProper_of_mem_closeBeyond {column indent : Int} {outer : List Int} {ts : List Token}
    (h : ∀ t ∈ ts, t.IsProper) : ∀ t ∈ (closeBeyond column indent outer ts).2.2, t.IsProper := by
  induction outer generalizing indent ts with
  | nil => exact h
  | cons o r ih =>
    rw [closeBeyond]
    split
    · exact ih (List.forall_mem_cons.mpr ⟨trivial, h⟩)
    · exact h

@[spec]
theorem closeBlocks_spec (column : Int) : ⦃proper⦄ closeBlocks column ⦃properly⦄ := by
  mvcgen [closeBlocks]
  rename_i hs _
  exact isProper_of_mem_closeBeyond hs

@[spec]
theorem openBlock_spec : ⦃proper⦄ openBlock column ⦃properly⦄ := by
  mvcgen [openBlock]

@[spec]
theorem skipToToken_spec (fuel : Nat) : ⦃proper⦄ skipToToken fuel ⦃properly⦄ := by
  induction fuel with
  | zero => exact malformed_spec
  | succ fuel ih => mvcgen [skipToToken, ih]

end Steps

/-! ### The kinds of tokens -/

section Kinds

variable {t : Token}

@[spec]
theorem atMargin_spec {x : Outliner Token} (h : ⦃proper⦄ x ⦃withToken⦄) :
    ⦃proper⦄ atMargin x ⦃properly⦄ := by
  mvcgen [atMargin, h]

@[spec]
theorem candidate_spec {x : Outliner Token} (h : ⦃proper⦄ x ⦃withToken⦄) :
    ⦃proper⦄ candidate x ⦃properly⦄ := by
  mvcgen [candidate, h]

@[spec]
theorem indicator_spec (n : Nat) :
    ⦃fun s ↦ ⌜t.IsProper ∧ s.IsProper⌝⦄ indicator n t ⦃properly⦄ := by
  mvcgen [indicator] <;> simp_all

@[spec]
theorem openBracket_spec : ⦃fun s ↦ ⌜t.IsProper ∧ s.IsProper⌝⦄ openBracket t ⦃properly⦄ := by
  mvcgen [openBracket]
  · simp_all
  · rename_i h _ _ hs _
    exact ⟨h.1, hs⟩

@[spec]
theorem closeBracket_spec : ⦃fun s ↦ ⌜t.IsProper ∧ s.IsProper⌝⦄ closeBracket t ⦃properly⦄ := by
  mvcgen [closeBracket] <;> simp_all [Outline.IsProper]

@[spec]
theorem comma_spec : ⦃proper⦄ comma ⦃properly⦄ := by
  mvcgen [comma]

@[spec]
theorem blockIndicator_spec {opening : Token} (keyFollows : Bool) :
    ⦃fun s ↦ ⌜opening.IsProper ∧ t.IsProper ∧ s.IsProper⌝⦄
    blockIndicator opening t keyFollows
    ⦃properly⦄ := by
  mvcgen [blockIndicator] <;> simp_all

@[spec]
theorem valueIndicator_spec : ⦃proper⦄ valueIndicator ⦃properly⦄ := by
  mvcgen [valueIndicator]

@[spec]
theorem blockScalar_spec (folded : Bool) : ⦃proper⦄ blockScalar folded ⦃properly⦄ := by
  mvcgen [blockScalar]

@[spec]
theorem plainScalar_spec : ⦃proper⦄ plainScalar ⦃properly⦄ := by
  mvcgen [plainScalar]

theorem step_spec : ⦃proper⦄ step ⦃properly⦄ := by
  mvcgen [step]

end Kinds

/-- The refusal at which the tokens end, if they end with one, is proper: by induction on the steps, each
of which keeps the tokens proper. -/
theorem isProper_of_mem_collect {fuel : Nat} {s : Outline} (h : s.IsProper) :
    ∀ t ∈ collect fuel s, t.IsProper := by
  induction fuel generalizing s with
  | zero =>
    intro t ht
    rcases List.mem_cons.mp (List.mem_reverse.mp ht) with rfl | ht
    · trivial
    · exact h t ht
  | succ fuel ih =>
    have hstep := triple_iff_run.mp step_spec s h
    rw [collect]
    split <;> rename_i heq <;> rw [heq] at hstep
    · intro t ht
      rcases List.mem_cons.mp (List.mem_reverse.mp ht) with rfl | ht
      · exact hstep
      · exact h t ht
    · exact fun t ht ↦ hstep t (List.mem_reverse.mp ht)
    · exact ih hstep

end Outliner

theorem isProper_of_mem_tokens {text : List Char} : ∀ t ∈ tokens text, t.IsProper := by
  rw [tokens]
  split
  · exact Outliner.isProper_of_mem_collect nofun
  · exact List.forall_mem_singleton.mpr trivial

/-! ## Reading the nodes -/

namespace NodeReader

/-- The tokens that are left are proper. -/
abbrev proper : Assertion (.arg Nodes (.except Refusal .pure)) := fun s ↦ ⌜s.IsProper⌝

/-- Any result with proper tokens left, and proper refusals only. -/
abbrev properly {α : Type} : PostCond α (.arg Nodes (.except Refusal .pure)) :=
  post⟨fun _ s ↦ ⌜s.IsProper⌝, fun r ↦ ⌜r.IsProper⌝⟩

@[spec]
theorem peek_spec :
    ⦃proper⦄
    peek
    ⦃post⟨fun t s ↦ ⌜(∀ r, t = some (.refused r) → r.IsProper) ∧ s.IsProper⌝,
      fun r ↦ ⌜r.IsProper⌝⟩⦄ := by
  mvcgen [peek]
  rename_i hs
  exact ⟨fun r hr ↦ hs (.refused r) (List.mem_of_head? hr), hs⟩

@[spec]
theorem skip_spec : ⦃proper⦄ skip ⦃properly⦄ := by
  mvcgen [skip]
  rename_i hs _
  exact fun t ht ↦ hs t (List.mem_of_mem_drop ht)

/-- The refusal at the next token is handed on. -/
@[spec]
theorem unexpected_spec {α : Type} : ⦃proper⦄ (unexpected : NodeReader α) ⦃properly⦄ := by
  mvcgen [unexpected]
  simp_all

@[spec]
theorem anchor_spec : ⦃proper⦄ anchor? ⦃properly⦄ := by
  mvcgen [anchor?] <;> simp_all

@[spec]
theorem tag_spec : ⦃proper⦄ tag? ⦃properly⦄ := by
  mvcgen [tag?] <;> simp_all

@[spec]
theorem define_spec (anchor : Option String) (node : Option Node) :
    ⦃proper⦄ define anchor node ⦃properly⦄ := by
  mvcgen [define]

@[spec]
theorem announce_spec (anchor : Option String) : ⦃proper⦄ announce anchor ⦃properly⦄ := by
  mvcgen [announce]

@[spec]
theorem isNext_spec (test : Token → Bool) : ⦃proper⦄ isNext test ⦃properly⦄ := by
  mvcgen [isNext]
  simp_all

/-- The readers of nodes and their parts refuse properly with some fuel. -/
structure IsSafe (fuel : Nat) : Prop where
  node (place : Place) : ⦃proper⦄ node place fuel ⦃properly⦄
  content (place : Place) (anchor tag : Option String) :
    ⦃proper⦄ content place anchor tag fuel ⦃properly⦄
  blockItems (indentless : Bool) (done : List Node) :
    ⦃proper⦄ blockItems indentless fuel done ⦃properly⦄
  blockPart : ⦃proper⦄ blockPart fuel ⦃properly⦄
  blockEntries (done : List (Node × Node)) : ⦃proper⦄ blockEntries fuel done ⦃properly⦄
  flowPart (ends : Token → Bool) : ⦃proper⦄ flowPart ends fuel ⦃properly⦄
  flowItems (done : List Node) : ⦃proper⦄ flowItems fuel done ⦃properly⦄
  flowEntries (done : List (Node × Node)) : ⦃proper⦄ flowEntries fuel done ⦃properly⦄

theorem IsSafe.zero : IsSafe 0 where
  node _ := by mvcgen [NodeReader.node]
  content _ _ _ := by mvcgen [NodeReader.content]
  blockItems _ _ := by mvcgen [NodeReader.blockItems]
  blockPart := by mvcgen [NodeReader.blockPart]
  blockEntries _ := by mvcgen [NodeReader.blockEntries]
  flowPart _ := by mvcgen [NodeReader.flowPart]
  flowItems _ := by mvcgen [NodeReader.flowItems]
  flowEntries _ := by mvcgen [NodeReader.flowEntries]

/-- Each reader calls the others with less fuel. -/
theorem IsSafe.succ {fuel : Nat} (h : IsSafe fuel) : IsSafe (fuel + 1) := by
  obtain ⟨hnode, hcontent, hitems, hpart, hentries, hflowPart, hflowItems, hflowEntries⟩ := h
  exact {
    node _ := by mvcgen [NodeReader.node, hcontent] <;> simp_all
    content _ _ _ := by
      mvcgen [NodeReader.content, hflowItems, hflowEntries, hitems, hentries] <;> simp_all
    blockItems _ _ := by mvcgen [NodeReader.blockItems, hnode, hitems]
    blockPart := by mvcgen [NodeReader.blockPart, hnode]
    blockEntries _ := by mvcgen [NodeReader.blockEntries, hpart, hentries]
    flowPart _ := by mvcgen [NodeReader.flowPart, hnode]
    flowItems _ := by mvcgen [NodeReader.flowItems, hnode, hflowPart, hflowItems]
    flowEntries _ := by mvcgen [NodeReader.flowEntries, hnode, hflowPart, hflowEntries] }

theorem isSafe (fuel : Nat) : IsSafe fuel := by
  induction fuel with
  | zero => exact .zero
  | succ fuel ih => exact ih.succ

@[spec]
theorem node_spec (place : Place) (fuel : Nat) : ⦃proper⦄ node place fuel ⦃properly⦄ :=
  (isSafe fuel).node place

@[spec]
theorem directives_spec (fuel : Nat) (versioned : Bool) (done : List (String × String)) :
    ⦃proper⦄ directives fuel versioned done ⦃properly⦄ := by
  induction fuel generalizing versioned done with
  | zero => mvcgen [directives]
  | succ fuel ih => mvcgen [directives, ih] <;> simp_all

@[spec]
theorem skipEnds_spec (fuel : Nat) : ⦃proper⦄ skipEnds fuel ⦃properly⦄ := by
  induction fuel with
  | zero => mvcgen [skipEnds]
  | succ fuel ih => mvcgen [skipEnds, ih] <;> simp_all

theorem document_spec (fuel : Nat) : ⦃proper⦄ document fuel ⦃properly⦄ := by
  mvcgen [document] <;> simp_all

end NodeReader

theorem isProper_of_ofTokens_eq_error {ts : List Token} {r : Refusal} (hts : ∀ t ∈ ts, t.IsProper)
    (h : Node.ofTokens ts = .error r) : r.IsProper := by
  have hrun := triple_iff_run.mp (NodeReader.document_spec (4 * ts.length + 4))
    ⟨ts, [], NodeReader.usualHandles⟩ hts
  rw [Node.ofTokens] at h
  split at hrun <;> rename_i heq <;> rw [heq] at h
  · cases h
  · cases h
    exact hrun

end Yaml
end Rulebook
