import Rulebook.Proofs.Overlay
import Rulebook.Spec

/-!
# Specifications as they are written

A specification of a rule is written as the name of the rule, or as the name with parameters in
brackets, and blanks may stand around the whole, around the name and around every parameter.
`Spec.Written` is such a text together with what it is made of: a name without `[`, and parameters
without `,` and `]`.

Reading takes the text apart again (`Spec.read_text`): trimming undoes the blanks
(`Text.trimChars_between`), the first `[` ends the name, and cutting at every `,` undoes putting the
parameters together (`Text.parts_intercalate`).  So the text resolves to what the mapping from its name
to its parameters resolves to, in every registry (`Spec.resolveAll_written`).
-/

set_option autoImplicit false

namespace Rulebook
namespace Text

variable {cs before after : List Char}

/-! ## Blanks at the ends -/

theorem notMem_of_blank {c : Char} (hc : isBlank c = false) (h : cs.all isBlank = true) : c ∉ cs := by
  intro hmem
  rw [List.all_eq_true] at h
  rw [h c hmem] at hc
  cases hc

/-- Blanks before and behind do not count. -/
theorem trimChars_between (hbefore : before.all isBlank = true) (hafter : after.all isBlank = true)
    (cs : List Char) : trimChars (before ++ cs ++ after) = trimChars cs := by
  rw [List.all_eq_true] at hbefore hafter
  have hreverse : ∀ c ∈ after.reverse, isBlank c = true := by simpa using hafter
  rw [trimChars, trimChars, List.append_assoc, List.dropWhile_append_of_pos hbefore,
    List.dropWhile_append]
  split
  · rename_i hblank
    have hnil : (after ++ []).dropWhile isBlank = [] := List.dropWhile_append_of_pos hafter
    rw [List.append_nil] at hnil
    rw [List.isEmpty_iff.mp hblank, hnil]
  · rw [List.reverse_append, List.dropWhile_append_of_pos hreverse]

/-- A text that begins and ends with something else than a blank has none to lose. -/
theorem trimChars_eq_self {c d : Char} (hc : isBlank c = false) (hd : isBlank d = false)
    (cs : List Char) : trimChars (c :: cs ++ [d]) = c :: cs ++ [d] := by
  simp [trimChars, hc, hd]

/-- What has no blanks at its ends begins with something else. -/
theorem exists_head_of_trimmed (h : trimChars cs = cs) (hne : cs ≠ []) :
    ∃ c r, cs = c :: r ∧ isBlank c = false := by
  cases cs with
  | nil => exact (hne rfl).elim
  | cons c r =>
    refine ⟨c, r, rfl, Bool.eq_false_iff.mpr fun hc ↦ ?_⟩
    -- A blank at the front would be lost.
    have hshort : trimChars (c :: r) = trimChars r := by simp [trimChars, hc]
    have hle := length_trimChars_le r
    rw [← hshort, h, List.length_cons] at hle
    omega

/-! ## Parts put together -/

/-- Cutting at a separator undoes putting parts without it together. -/
theorem parts_intercalate {sep : Char} {ps : List (List Char)} (h : ∀ p ∈ ps, sep ∉ p)
    (hne : ps ≠ []) : parts sep (List.intercalate [sep] ps) = ps := by
  induction ps with
  | nil => exact (hne rfl).elim
  | cons p r ih =>
    obtain ⟨hp, hr⟩ := List.forall_mem_cons.mp h
    cases r with
    | nil => rw [List.intercalate_singleton, parts_eq_singleton hp]
    | cons q s =>
      rw [List.intercalate_cons_cons, List.append_assoc, List.singleton_append, parts_append hp,
        ih hr (List.cons_ne_nil q s)]

end Text

namespace Spec

open Text (isBlank trimChars)

/-! ## Texts with what they are made of -/

/-- A text without blanks at its ends, and blanks that stand around it. -/
structure Padded where
  text : String
  before : List Char
  after : List Char
  trimmed : trimChars text.toList = text.toList
  blank_before : before.all isBlank = true
  blank_after : after.all isBlank = true

/-- A specification as it is written, and what it is made of. -/
structure Written where
  /-- The blanks around the whole. -/
  before : List Char
  after : List Char
  name : Padded
  /-- The parameters; a specification without any is written without brackets. -/
  params : List Padded
  blank_before : before.all isBlank = true
  blank_after : after.all isBlank = true
  name_ne : name.text ≠ ""
  name_plain : '[' ∉ name.text.toList
  params_plain : ∀ p ∈ params, ',' ∉ p.text.toList ∧ ']' ∉ p.text.toList

namespace Padded

/-- The text with the blanks around it. -/
def chars (p : Padded) : List Char := p.before ++ p.text.toList ++ p.after

theorem trimChars_chars (p : Padded) : trimChars p.chars = p.text.toList := by
  rw [chars, Text.trimChars_between p.blank_before p.blank_after, p.trimmed]

/-- A character that is not blank stands in the text itself or nowhere. -/
theorem notMem_chars (p : Padded) {c : Char} (hc : isBlank c = false) (h : c ∉ p.text.toList) :
    c ∉ p.chars := by
  simp only [chars, List.mem_append, not_or]
  exact ⟨⟨Text.notMem_of_blank hc p.blank_before, h⟩, Text.notMem_of_blank hc p.blank_after⟩

end Padded

namespace Written

/-- The parameters with commas between them. -/
def inner (w : Written) : List Char := List.intercalate [','] (w.params.map Padded.chars)

/-- The parameters in brackets; nothing when there are none. -/
def brackets (w : Written) : List Char :=
  if w.params.isEmpty then [] else '[' :: w.inner ++ [']']

/-- The specification as it is written. -/
def text (w : Written) : String :=
  String.ofList (w.before ++ (w.name.chars ++ w.brackets) ++ w.after)

/-- The mapping that stands for the same rule. -/
def mapping (w : Written) : Value :=
  .dict [(.text w.name.text, .list (w.params.map fun p ↦ .text p.text))]

theorem toList_text (w : Written) :
    w.text.toList = w.before ++ (w.name.chars ++ w.brackets) ++ w.after :=
  String.toList_ofList

theorem brackets_eq_nil (w : Written) (h : w.params = []) : w.brackets = [] := by
  simp [brackets, h]

theorem brackets_eq (w : Written) (h : w.params ≠ []) :
    w.brackets = '[' :: w.inner ++ [']'] := by
  simp [brackets, h]

theorem notMem_name (w : Written) : '[' ∉ w.name.chars :=
  w.name.notMem_chars (by decide) w.name_plain

theorem exists_head_name (w : Written) :
    ∃ c r, w.name.text.toList = c :: r ∧ isBlank c = false := by
  refine Text.exists_head_of_trimmed w.name.trimmed fun hnil ↦ w.name_ne ?_
  rwa [← String.toList_inj]

/-- What is left of a specification in brackets when the blanks around it are gone. -/
theorem trimChars_text (w : Written) (h : w.params ≠ []) :
    trimChars w.text.toList = w.name.text.toList ++ w.name.after ++ '[' :: w.inner ++ [']'] := by
  obtain ⟨c, r, hname, hc⟩ := w.exists_head_name
  have hbefore : (w.before ++ w.name.before).all isBlank = true := by
    rw [List.all_append, w.blank_before, w.name.blank_before]
    rfl
  have hsplit : w.text.toList = (w.before ++ w.name.before) ++
      (c :: (r ++ w.name.after ++ '[' :: w.inner) ++ [']']) ++ w.after := by
    simp [toList_text, brackets_eq w h, Padded.chars, hname]
  rw [hsplit, Text.trimChars_between hbefore w.blank_after, Text.trimChars_eq_self hc (by decide),
    hname]
  simp

/-- The parameters are read as they are meant. -/
theorem map_param_parts (w : Written) (h : w.params ≠ []) :
    (Text.parts ',' w.inner).map param = w.params.map fun p ↦ p.text.toList := by
  have hcommas : ∀ cs ∈ w.params.map Padded.chars, ',' ∉ cs := by
    rw [List.forall_mem_map]
    intro p hp
    exact p.notMem_chars (by decide) (w.params_plain p hp).1
  rw [inner, Text.parts_intercalate hcommas (by simpa using h), List.map_map]
  refine List.map_congr_left fun p hp ↦ ?_
  have hbracket := p.notMem_chars (c := ']') (by decide) (w.params_plain p hp).2
  rw [Function.comp_apply, param, List.erase_of_not_mem hbracket, p.trimChars_chars]

end Written

/-! ## Reading what is written -/

/-- A text in brackets is cut at the first opening bracket and before the last closing one. -/
theorem readChars_brackets {cs front inner : List Char} (hfront : '[' ∉ front)
    (h : trimChars cs = front ++ '[' :: inner ++ [']']) :
    readChars cs = (trimChars front, (Text.parts ',' inner).map param) := by
  have hopen : (front ++ '[' :: inner ++ [']']).contains '[' = true := by simp
  have hbody : dropClosing (front ++ '[' :: inner ++ [']']) = front ++ '[' :: inner := by
    rw [dropClosing, List.getLast?_concat, if_pos rfl, List.dropLast_concat]
  have hbefore : ∀ c ∈ front, (c != '[') = true := by
    intro c hc
    exact bne_iff_ne.mpr fun heq ↦ hfront (heq ▸ hc)
  have hname : (front ++ '[' :: inner).takeWhile (· != '[') = front := by
    rw [List.takeWhile_append_of_pos hbefore]
    simp
  have hrest : (front ++ '[' :: inner).drop (front.length + 1) = inner := by
    rw [← List.drop_drop, List.drop_left, List.drop_one, List.tail_cons]
  rw [readChars, h]
  dsimp only
  rw [if_pos hopen, hbody, hname, hrest]

/-- A specification is read as its name and its parameters. -/
theorem readChars_text (w : Written) :
    readChars w.text.toList = (w.name.text.toList, w.params.map fun p ↦ p.text.toList) := by
  by_cases h : w.params = []
  · have hname : trimChars w.text.toList = w.name.text.toList := by
      rw [w.toList_text, w.brackets_eq_nil h, List.append_nil,
        Text.trimChars_between w.blank_before w.blank_after, w.name.trimChars_chars]
    have hplain : w.name.text.toList.contains '[' = false := by simpa using w.name_plain
    rw [readChars, hname, hplain, h]
    rfl
  · have hfront : '[' ∉ w.name.text.toList ++ w.name.after := by
      intro hmem
      refine w.notMem_name ?_
      rw [Padded.chars, List.append_assoc]
      exact List.mem_append_right _ hmem
    have hname : trimChars ([] ++ w.name.text.toList ++ w.name.after) = w.name.text.toList := by
      rw [Text.trimChars_between rfl w.name.blank_after, w.name.trimmed]
    rw [List.nil_append] at hname
    rw [readChars_brackets hfront (w.trimChars_text h), hname, w.map_param_parts h]

theorem read_text (w : Written) :
    read w.text = (w.name.text, w.params.map Padded.text) := by
  rw [read, readChars_text]
  simp [String.ofList_toList]

/-! ## Resolving what is written -/

theorem isBlankText_text (w : Written) : Text.isBlankText w.text = false := by
  obtain ⟨c, r, hname, hc⟩ := w.exists_head_name
  rw [Text.isBlankText, w.toList_text, Padded.chars, hname]
  simp [hc]

/-- One specification alone is resolved as it is. -/
theorem resolveAll_singleton [Platform] (registry : Registry) (spec : Value) :
    resolveAll registry (.list [spec]) = resolve registry spec :=
  rfl

theorem resolve_text [Platform] (w : Written) (registry : Registry) :
    resolve registry (.text w.text) = (match registry.find? w.name.text with
      | none => .ofInvalid (.text w.text)
      | some rule =>
        .ofRule (.named ⟨w.name.text, w.text, w.params.map fun p ↦ .text p.text, rule⟩), []) := by
  rw [resolve, resolveText, isBlankText_text, if_neg Bool.false_ne_true, read_text]
  dsimp only
  rw [List.map_map]
  rfl

theorem resolve_mapping [Platform] (w : Written) (registry : Registry) :
    resolve registry w.mapping = (match registry.find? w.name.text with
      | none => .ofInvalid (.text w.name.text)
      | some rule =>
        .ofRule (.named ⟨w.name.text, w.name.text, w.params.map fun p ↦ .text p.text, rule⟩),
        []) := by
  rw [Written.mapping, resolve, List.foldl_cons, List.foldl_nil, resolveEntry]
  cases registry.find? w.name.text <;> rfl

/-- **A specification means what the mapping from its name to its parameters means.**  It is read as
its name and its parameters whatever blanks stand around them, and in every registry the text and the
mapping both fail to resolve, or both resolve to one rule with one name and one list of parameters. -/
theorem resolveAll_written [Platform] (w : Written) (registry : Registry) :
    read w.text = (w.name.text, w.params.map Padded.text) ∧
      match registry.find? w.name.text with
      | none =>
        resolveAll registry (.list [.text w.text]) = (.ofInvalid (.text w.text), []) ∧
          resolveAll registry (.list [w.mapping]) = (.ofInvalid (.text w.name.text), [])
      | some rule =>
        let params := w.params.map fun p ↦ Value.text p.text
        resolveAll registry (.list [.text w.text]) =
            (.ofRule (.named ⟨w.name.text, w.text, params, rule⟩), []) ∧
          resolveAll registry (.list [w.mapping]) =
            (.ofRule (.named ⟨w.name.text, w.name.text, params, rule⟩), []) := by
  refine ⟨read_text w, ?_⟩
  have htext := resolve_text w registry
  have hmapping := resolve_mapping w registry
  rw [← resolveAll_singleton] at htext hmapping
  cases hrule : registry.find? w.name.text with
  | none =>
    rw [hrule] at htext hmapping
    exact ⟨htext, hmapping⟩
  | some rule =>
    rw [hrule] at htext hmapping
    exact ⟨htext, hmapping⟩

/-- A rule with blanks around everything, an empty parameter and one with a bracket in it. -/
def sample : Written where
  before := ['\n']
  after := [' ']
  name := ⟨"In", [' '], ['\t'], rfl, rfl, rfl⟩
  params := [⟨"a[b", [' '], [' '], rfl, rfl, rfl⟩, ⟨"", [], [], rfl, rfl, rfl⟩,
    ⟨"c d", [], ['\u3000'], rfl, rfl, rfl⟩]
  blank_before := rfl
  blank_after := rfl
  name_ne := by decide
  name_plain := by decide
  params_plain := by decide

example : sample.text = "\n In\t[ a[b ,,c d\u3000] " ∧
    read sample.text = ("In", ["a[b", "", "c d"]) := by decide

end Spec
end Rulebook
