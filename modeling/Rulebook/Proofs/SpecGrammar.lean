import Rulebook.Proofs.SpecText
import Mathlib.Data.List.DropRight

/-!
# The grammar of specifications

What a specification says can be told without reading it: `Spec.Means` relates a text to a name and
parameters by how the text is put together.  It leaves open what counts as the end of the brackets.  Either
all closing brackets at the end of the text belong to it (`Spec.AllClosing`), or only one does
(`Spec.OneClosing`).

Reading gives the one meaning in which a single bracket is the end (`Spec.means_one_iff`).  The other
meaning is hardly ever different, since a parameter loses one closing bracket anyway: it is different
exactly if the text ends with two closing brackets and there is a third one in the last parameter
(`Spec.Overclosed`).  What carries the proof is the number of closing brackets in the last parameter.
-/

set_option autoImplicit false

namespace Rulebook
namespace Text

variable {sep : Char} {cs t tail before after : List Char}

/-! ## Trimming -/

/-- A text is another one with blanks around it, and begins and ends with something else. -/
structure Trims (cs t : List Char) : Prop where
  exists_blanks : ∃ before after, cs = before ++ t ++ after ∧ before.all isBlank = true ∧
    after.all isBlank = true
  head : ∀ c ∈ t.head?, isBlank c = false
  last : ∀ c ∈ t.getLast?, isBlank c = false

theorem head_dropWhile_isBlank (cs : List Char) :
    ∀ c ∈ (cs.dropWhile isBlank).head?, isBlank c = false := by
  intro c hc
  have hnot := List.head?_dropWhile_not isBlank cs
  rw [Option.mem_def.mp hc] at hnot
  exact hnot

theorem trims_trimChars (cs : List Char) : Trims cs (trimChars cs) := by
  have hsplit : cs.dropWhile isBlank = trimChars cs ++ (cs.dropWhile isBlank).rtakeWhile isBlank :=
    List.rdropWhile_append_rtakeWhile.symm
  refine ⟨⟨cs.takeWhile isBlank, (cs.dropWhile isBlank).rtakeWhile isBlank, ?_, ?_, ?_⟩, ?_, ?_⟩
  · rw [List.append_assoc, ← hsplit, List.takeWhile_append_dropWhile]
  · exact List.all_eq_true.mpr fun c hc ↦ List.mem_takeWhile_imp hc
  · exact List.all_eq_true.mpr fun c hc ↦ List.mem_rtakeWhile_imp hc
  · intro c hc
    refine head_dropWhile_isBlank cs c ?_
    rw [hsplit, List.head?_append, Option.mem_def.mp hc]
    rfl
  · intro c hc
    rw [trimChars, List.getLast?_reverse] at hc
    exact head_dropWhile_isBlank _ c hc

/-- What begins and ends with something else than a blank has none to lose. -/
theorem Trims.trimChars_eq (h : Trims cs t) : trimChars cs = t := by
  obtain ⟨⟨before, after, rfl, hbefore, hafter⟩, hhead, hlast⟩ := h
  have hdrop : ∀ {u : List Char}, (∀ c ∈ u.head?, isBlank c = false) → u.dropWhile isBlank = u := by
    intro u hu
    cases u with
    | nil => rfl
    | cons c r => exact List.dropWhile_cons_of_neg (Bool.eq_false_iff.mp (hu c rfl))
  rw [trimChars_between hbefore hafter, trimChars, hdrop hhead, hdrop, List.reverse_reverse]
  rwa [List.head?_reverse]

theorem trims_iff : Trims cs t ↔ t = trimChars cs :=
  ⟨fun h ↦ h.trimChars_eq.symm, fun h ↦ h ▸ trims_trimChars cs⟩

/-- Trimming loses no character that is not blank. -/
theorem count_trimChars {c : Char} (hc : isBlank c = false) : (trimChars cs).count c = cs.count c := by
  obtain ⟨⟨before, after, hcs, hbefore, hafter⟩, -, -⟩ := trims_trimChars cs
  have hnone : ∀ {u : List Char}, u.all isBlank = true → u.count c = 0 :=
    fun hu ↦ List.count_eq_zero.mpr (notMem_of_blank hc hu)
  rw [congrArg (List.count c) hcs, List.count_append, List.count_append, hnone hbefore, hnone hafter,
    Nat.zero_add, Nat.add_zero]

/-! ## Parts -/

theorem parts_ne_nil (sep : Char) (cs : List Char) : parts sep cs ≠ [] := by
  cases cs with
  | nil => exact List.cons_ne_nil _ _
  | cons c r =>
    rw [parts]
    split
    · exact List.cons_ne_nil _ _
    · split <;> exact List.cons_ne_nil _ _

/-- A separator divides the parts. -/
theorem parts_append_cons (sep : Char) (cs rest : List Char) :
    parts sep (cs ++ sep :: rest) = parts sep cs ++ parts sep rest := by
  induction cs with
  | nil => rw [List.nil_append, parts.eq_2, if_pos rfl, parts.eq_1, List.singleton_append]
  | cons c r ih =>
    rw [List.cons_append, parts, parts, ih]
    split
    · rw [List.cons_append]
    · obtain ⟨p, ps, hps⟩ := List.exists_cons_of_ne_nil (parts_ne_nil sep r)
      rw [hps]
      rfl

/-- A text ends with its last part, and what is put behind it is put behind that part. -/
theorem exists_last_part (sep : Char) (cs : List Char) : ∃ early last, cs = early ++ last ∧
    sep ∉ last ∧ ∃ ps, ∀ tail, sep ∉ tail → parts sep (cs ++ tail) = ps ++ [last ++ tail] := by
  by_cases h : sep ∈ cs
  · obtain ⟨late, early, hsplit, hlate⟩ := List.eq_append_cons_of_mem (List.mem_reverse.mpr h)
    have hcs : cs = early.reverse ++ sep :: late.reverse := by
      rw [← List.reverse_reverse cs, hsplit]
      simp
    rw [← List.mem_reverse] at hlate
    refine ⟨early.reverse ++ [sep], late.reverse, by simpa using hcs, hlate, parts sep early.reverse, ?_⟩
    intro tail htail
    have hnone : sep ∉ late.reverse ++ tail := by simpa using ⟨by simpa using hlate, htail⟩
    rw [hcs, List.append_assoc, List.cons_append, parts_append_cons, parts_eq_singleton hnone]
  · refine ⟨[], cs, rfl, h, [], fun tail htail ↦ ?_⟩
    rw [List.nil_append, parts_eq_singleton]
    exact fun hmem ↦ (List.mem_append.mp hmem).elim h htail

/-- The parts put together again are the text, and no separator is in them. -/
theorem intercalate_parts (sep : Char) (cs : List Char) :
    List.intercalate [sep] (parts sep cs) = cs ∧ ∀ p ∈ parts sep cs, sep ∉ p := by
  induction cs with
  | nil => exact ⟨List.intercalate_singleton, by simp [parts]⟩
  | cons c r ih =>
    obtain ⟨p, ps, hps⟩ := List.exists_cons_of_ne_nil (parts_ne_nil sep r)
    obtain ⟨hjoin, hnone⟩ := ih
    rw [parts, hps]
    split
    · rename_i hc
      rw [← hps, List.forall_mem_cons]
      refine ⟨?_, List.not_mem_nil, hnone⟩
      rw [hps, List.intercalate_cons_cons, ← hps, hjoin, hc]
      rfl
    · rename_i hc
      rw [hps, List.forall_mem_cons] at hnone
      rw [List.forall_mem_cons, List.mem_cons, not_or]
      refine ⟨?_, ⟨Ne.symm hc, hnone.1⟩, hnone.2⟩
      rw [hps] at hjoin
      cases ps with
      | nil => rw [List.intercalate_singleton] at hjoin ⊢; rw [hjoin]
      | cons q qs =>
        rw [List.intercalate_cons_cons] at hjoin ⊢
        rw [List.cons_append, List.cons_append, hjoin]

end Text

namespace Spec

open Text (Trims trims_iff trimChars isBlank)

variable {cs text body front blob : List Char}

/-! ## The grammar -/

/-- What is left of a text without its first character of a kind, if it has one. -/
inductive LosesFirst (c : Char) : List Char → List Char → Prop
  | none {cs : List Char} (h : c ∉ cs) : LosesFirst c cs cs
  | some {before : List Char} (after : List Char) (h : c ∉ before) :
      LosesFirst c (before ++ c :: after) (before ++ after)

/-- All closing brackets at the end of a text belong to the end of the brackets. -/
def AllClosing (text body : List Char) : Prop :=
  (∃ n, text = body ++ List.replicate n ']') ∧ body.getLast? ≠ some ']'

/-- One closing bracket is the end of the brackets; it may be missing. -/
def OneClosing (text body : List Char) : Prop :=
  text = body ++ [']'] ∨ text = body ∧ body.getLast? ≠ some ']'

/-- What a segment between commas says: itself without its first closing bracket and without the blanks at
its ends. -/
def MeansParam (segment param : List Char) : Prop :=
  ∃ rest, LosesFirst ']' segment rest ∧ Trims rest param

/-- What a specification says: a name alone, or a name and the parameters in brackets behind it. -/
inductive Means (closing : List Char → List Char → Prop) (spec : String) :
    String × List String → Prop
  | name {text : List Char} (htext : Trims spec.toList text) (hplain : '[' ∉ text) :
      Means closing spec (String.ofList text, [])
  | brackets {text front name : List Char} {segments params : List (List Char)}
      (htext : Trims spec.toList text) (hopen : '[' ∈ text) (hfront : '[' ∉ front)
      (hsegments : segments ≠ []) (hcommas : ∀ s ∈ segments, ',' ∉ s)
      (hclosing : closing text (front ++ '[' :: List.intercalate [','] segments))
      (hname : Trims front name) (hparams : List.Forall₂ MeansParam segments params) :
      Means closing spec (String.ofList name, params.map String.ofList)

/-! ## Reading by the grammar -/

theorem losesFirst_iff {c : Char} {rest : List Char} : LosesFirst c cs rest ↔ rest = cs.erase c := by
  constructor
  · rintro (h | ⟨after, h⟩)
    · exact (List.erase_of_not_mem h).symm
    · rw [List.erase_append_right _ h, List.erase_cons_head]
  · rintro rfl
    by_cases h : c ∈ cs
    · obtain ⟨before, after, rfl, hbefore⟩ := List.eq_append_cons_of_mem h
      rw [List.erase_append_right _ hbefore, List.erase_cons_head]
      exact .some after hbefore
    · rw [List.erase_of_not_mem h]
      exact .none h

theorem meansParam_iff {segment p : List Char} : MeansParam segment p ↔ param segment = p := by
  simp only [MeansParam, losesFirst_iff, trims_iff, exists_eq_left, param, eq_comm]

theorem forall₂_meansParam_iff {segments params : List (List Char)} :
    List.Forall₂ MeansParam segments params ↔ segments.map param = params := by
  rw [← List.forall₂_eq_eq_eq, List.forall₂_map_left_iff]
  simp only [← meansParam_iff]

/-- The characters without all brackets at the end. -/
def dropClosings (cs : List Char) : List Char := cs.rdropWhile (· == ']')

/-- The name and the parameters of a specification, the end of its brackets being dropped in some way. -/
def readBy (drop : List Char → List Char) (cs : List Char) : List Char × List (List Char) :=
  let text := trimChars cs
  if text.contains '[' then
    let body := drop text
    let name := body.takeWhile (· != '[')
    (trimChars name, (Text.parts ',' (body.drop (name.length + 1))).map param)
  else (text, [])

/-- A result of reading as texts. -/
def toTexts (r : List Char × List (List Char)) : String × List String :=
  (String.ofList r.1, r.2.map String.ofList)

theorem read_eq (spec : String) : read spec = toTexts (readBy dropClosing spec.toList) :=
  rfl

theorem oneClosing_iff : OneClosing text body ↔ body = dropClosing text := by
  rw [OneClosing, dropClosing]
  constructor
  · rintro (rfl | ⟨rfl, h⟩)
    · rw [List.getLast?_concat, if_pos rfl, List.dropLast_concat]
    · rw [if_neg h]
  · rintro rfl
    split
    · rename_i h
      exact .inl (List.dropLast_append_getLast? ']' h).symm
    · rename_i h
      exact .inr ⟨rfl, h⟩

/-- A text is what is left of it and as many closing brackets as were dropped. -/
theorem exists_dropClosings (cs : List Char) : ∃ n, cs = dropClosings cs ++ List.replicate n ']' := by
  have hall : ∀ c ∈ cs.rtakeWhile (· == ']'), c = ']' := by
    intro c hc
    have hclosing := List.mem_rtakeWhile_imp hc
    exact eq_of_beq hclosing
  refine ⟨(cs.rtakeWhile (· == ']')).length, ?_⟩
  rw [← List.eq_replicate_of_mem hall]
  exact List.rdropWhile_append_rtakeWhile.symm

theorem getLast?_dropClosings (cs : List Char) : (dropClosings cs).getLast? ≠ some ']' := by
  intro h
  have hne : dropClosings cs ≠ [] := by
    rintro hnil
    rw [hnil] at h
    cases h
  have hlast := List.rdropWhile_last_not (· == ']') cs hne
  rw [List.getLast?_eq_some_getLast hne] at h
  exact hlast (beq_iff_eq.mpr (Option.some.inj h))

theorem allClosing_iff : AllClosing text body ↔ body = dropClosings text := by
  constructor
  · rintro ⟨⟨n, rfl⟩, hlast⟩
    induction n with
    | zero =>
      rw [List.replicate_zero, List.append_nil]
      refine (List.rdropWhile_eq_self_iff.mpr fun hne h ↦ hlast ?_).symm
      rw [List.getLast?_eq_some_getLast hne, eq_of_beq h]
    | succ n ih =>
      rw [List.replicate_succ', ← List.append_assoc, dropClosings, List.rdropWhile_concat_pos _ _ _ rfl]
      exact ih
  · rintro rfl
    exact ⟨exists_dropClosings text, getLast?_dropClosings text⟩

/-- Cutting at the first opening bracket. -/
theorem cut_eq (blob : List Char) (hfront : '[' ∉ front) :
    (front ++ '[' :: blob).takeWhile (· != '[') = front ∧
      (front ++ '[' :: blob).drop (front.length + 1) = blob := by
  have hbefore : ∀ c ∈ front, (c != '[') = true := fun c hc ↦
    bne_iff_ne.mpr fun heq ↦ hfront (heq ▸ hc)
  constructor
  · rw [List.takeWhile_append_of_pos hbefore]
    simp
  · rw [← List.drop_drop, List.drop_left, List.drop_one, List.tail_cons]

theorem readBy_brackets {drop : List Char → List Char} (hopen : '[' ∈ trimChars cs)
    (hfront : '[' ∉ front) (hbody : drop (trimChars cs) = front ++ '[' :: blob) :
    readBy drop cs = (trimChars front, (Text.parts ',' blob).map param) := by
  obtain ⟨hname, hrest⟩ := cut_eq blob hfront
  rw [readBy]
  dsimp only
  rw [if_pos (List.contains_iff_mem.mpr hopen), hbody, hname, hrest]

theorem readBy_name {drop : List Char → List Char} (hplain : '[' ∉ trimChars cs) :
    readBy drop cs = (trimChars cs, []) :=
  if_neg fun h ↦ hplain (List.contains_iff_mem.mp h)

/-- **A specification says one thing**, and reading finds it, if what is dropped is what ends the brackets
and leaves the opening bracket. -/
theorem means_iff (closing : List Char → List Char → Prop) (drop : List Char → List Char)
    (hclosing : ∀ text body, closing text body ↔ body = drop text)
    (hkeeps : ∀ text, '[' ∈ text → '[' ∈ drop text) (spec : String) (r : String × List String) :
    Means closing spec r ↔ r = toTexts (readBy drop spec.toList) := by
  constructor
  · rintro (⟨htext, hplain⟩ | ⟨htext, hopen, hfront, hsegments, hcommas, hbody, hname, hparams⟩)
    · obtain rfl := trims_iff.mp htext
      rw [readBy_name hplain]
      rfl
    · obtain rfl := trims_iff.mp htext
      rw [readBy_brackets hopen hfront ((hclosing _ _).mp hbody).symm,
        Text.parts_intercalate hcommas hsegments, toTexts, ← trims_iff.mp hname,
        forall₂_meansParam_iff.mp hparams]
  · rintro rfl
    have htext := Text.trims_trimChars spec.toList
    by_cases hopen : '[' ∈ trimChars spec.toList
    · obtain ⟨front, blob, hbody, hfront⟩ := List.eq_append_cons_of_mem (hkeeps _ hopen)
      obtain ⟨hjoin, hcommas⟩ := Text.intercalate_parts ',' blob
      rw [readBy_brackets hopen hfront hbody]
      refine .brackets htext hopen hfront (Text.parts_ne_nil ',' blob) hcommas ?_
        (Text.trims_trimChars front) ?_
      · rw [hjoin, ← hbody]
        exact (hclosing _ _).mpr rfl
      · exact forall₂_meansParam_iff.mpr rfl
    · rw [readBy_name hopen]
      exact .name htext hopen

/-! ## One closing bracket or all of them -/

/-- A text ends with two closing brackets, and there is a third one in its last parameter. -/
def Overclosed (text : List Char) : Prop :=
  ∃ before inside, text = before ++ ']' :: inside ++ [']', ']'] ∧ '[' ∈ before ∧ ',' ∉ inside

/-- Without one closing bracket such a text still ends with one, and has another one in front of it. -/
theorem Overclosed.exists_dropClosing (h : Overclosed text) : ∃ front rest inside,
    dropClosing text = front ++ '[' :: (rest ++ (']' :: inside ++ [']'])) ∧
      '[' ∉ front ∧ ',' ∉ inside := by
  obtain ⟨before, inside, htext, hopen, hinside⟩ := h
  obtain ⟨front, rest, rfl, hfront⟩ := List.eq_append_cons_of_mem hopen
  refine ⟨front, rest, inside, ?_, hfront, hinside⟩
  have hconcat : text = front ++ '[' :: (rest ++ (']' :: inside ++ [']'])) ++ [']'] := by
    rw [htext]
    simp
  rw [hconcat, dropClosing, List.getLast?_concat, if_pos rfl, List.dropLast_concat]

/-- A text in brackets: what stands before the brackets and before the last parameter, the last parameter,
and how many closing brackets follow. -/
structure Bracketed (text : List Char) where
  front : List Char
  early : List Char
  last : List Char
  closings : Nat
  text_eq : text = front ++ '[' :: (early ++ last) ++ List.replicate closings ']'
  front_plain : '[' ∉ front
  last_plain : ',' ∉ last
  stops : (front ++ '[' :: (early ++ last)).getLast? ≠ some ']'
  exists_parts : ∃ ps, ∀ tail, ',' ∉ tail →
    Text.parts ',' (early ++ last ++ tail) = ps ++ [last ++ tail]

theorem mem_dropClosings (hopen : '[' ∈ text) : '[' ∈ dropClosings text := by
  obtain ⟨n, hn⟩ := exists_dropClosings text
  rw [hn] at hopen
  refine (List.mem_append.mp hopen).resolve_right fun h ↦ ?_
  exact absurd (List.eq_of_mem_replicate h) (by decide)

theorem nonempty_bracketed (hopen : '[' ∈ text) : Nonempty (Bracketed text) := by
  obtain ⟨n, hn⟩ := exists_dropClosings text
  obtain ⟨front, blob, hbody, hfront⟩ := List.eq_append_cons_of_mem (mem_dropClosings hopen)
  obtain ⟨early, last, rfl, hlast, hparts⟩ := Text.exists_last_part ',' blob
  have hstops := getLast?_dropClosings text
  rw [hbody] at hn hstops
  exact ⟨⟨front, early, last, n, hn, hfront, hlast, hstops, hparts⟩⟩

/-- Of the closing brackets at the end one is dropped. -/
theorem dropClosing_append (hbody : body.getLast? ≠ some ']') (n : Nat) :
    dropClosing (body ++ List.replicate n ']') = body ++ List.replicate (n - 1) ']' := by
  rw [dropClosing]
  cases n with
  | zero => simp [hbody]
  | succ n =>
    rw [List.replicate_succ', ← List.append_assoc, List.getLast?_concat, if_pos rfl,
      List.dropLast_concat, Nat.add_sub_cancel]

theorem count_param (cs : List Char) : (param cs).count ']' = cs.count ']' - 1 := by
  rw [param, Text.count_trimChars (by decide), List.count_erase_self]

/-- Closing brackets behind a parameter do not count only if it loses the one that there is. -/
theorem param_append_replicate (last : List Char) (n : Nat) :
    param (last ++ List.replicate n ']') = param last ↔ n = 0 ∨ last.count ']' + n ≤ 1 := by
  constructor
  · intro h
    have hcount := congrArg (List.count ']') h
    rw [count_param, count_param, List.count_append, List.count_replicate_self] at hcount
    omega
  · intro h
    rcases Nat.eq_zero_or_pos n with rfl | hn
    · rw [List.replicate_zero, List.append_nil]
    · obtain ⟨hnone, rfl⟩ : last.count ']' = 0 ∧ n = 1 := by omega
      have hnone : ']' ∉ last := List.count_eq_zero.mp hnone
      rw [param, param, List.erase_append_right _ hnone, List.erase_of_not_mem hnone]
      simp

namespace Bracketed

variable (b : Bracketed text)

/-- How many closing brackets the last parameter keeps when one is dropped. -/
def kept : Nat := b.closings - 1

theorem dropClosing_eq :
    dropClosing text = b.front ++ '[' :: (b.early ++ b.last ++ List.replicate b.kept ']') := by
  rw [congrArg dropClosing b.text_eq, dropClosing_append b.stops, kept]
  simp

theorem dropClosings_eq : dropClosings text = b.front ++ '[' :: (b.early ++ b.last) :=
  (allClosing_iff.mp ⟨⟨_, b.text_eq⟩, b.stops⟩).symm

/-- **Dropping one bracket or all of them** comes to the same, unless brackets are left that the last
parameter does not lose. -/
theorem readBy_eq_iff {cs : List Char} (b : Bracketed (trimChars cs)) :
    readBy dropClosing cs = readBy dropClosings cs ↔
      b.kept = 0 ∨ b.last.count ']' + b.kept ≤ 1 := by
  have hopen : '[' ∈ trimChars cs := by rw [b.text_eq]; simp
  have hcomma : ',' ∉ List.replicate b.kept ']' := fun h ↦
    absurd (List.eq_of_mem_replicate h) (by decide)
  obtain ⟨ps, hps⟩ := b.exists_parts
  have hone := hps _ hcomma
  have hall := hps [] List.not_mem_nil
  rw [List.append_nil, List.append_nil] at hall
  rw [readBy_brackets hopen b.front_plain b.dropClosing_eq,
    readBy_brackets hopen b.front_plain b.dropClosings_eq, hone, hall, ← param_append_replicate]
  simp

/-- When one closing bracket is dropped and another one is there, some are left. -/
theorem kept_ne_zero (h : (dropClosing text).getLast? = some ']') : b.kept ≠ 0 := by
  intro hzero
  rw [b.dropClosing_eq, hzero, List.replicate_zero, List.append_nil] at h
  exact b.stops h

/-- What stands behind the first opening bracket is known. -/
theorem blob_eq (hfront : '[' ∉ front) (h : dropClosing text = front ++ '[' :: blob) :
    blob = b.early ++ b.last ++ List.replicate b.kept ']' := by
  have hcut := (cut_eq blob hfront).1
  have hsame := h.symm.trans b.dropClosing_eq
  rw [hsame, (cut_eq _ b.front_plain).1] at hcut
  subst hcut
  exact List.tail_eq_of_cons_eq (List.append_cancel_left hsame)

/-- Two closing brackets in what becomes the last parameter count. -/
theorem two_le_count {rest inside : List Char} (hinside : ',' ∉ inside)
    (h : rest ++ (']' :: inside ++ [']']) = b.early ++ b.last ++ List.replicate b.kept ']') :
    2 ≤ b.last.count ']' + b.kept := by
  obtain ⟨early, last, rfl, -, qs, hqs⟩ := Text.exists_last_part ',' rest
  obtain ⟨ps, hps⟩ := b.exists_parts
  have hparts := hps (List.replicate b.kept ']') fun h ↦
    absurd (List.eq_of_mem_replicate h) (by decide)
  rw [← h, hqs _ (by simp [hinside])] at hparts
  have hlast := congrArg (List.count ']')
    (List.head_eq_of_cons_eq (List.append_inj_right' hparts rfl))
  simp only [List.count_append, List.cons_append, List.count_cons_self,
    List.count_replicate_self] at hlast
  omega

/-- If one bracket of those that are left is in the last parameter, and another one behind it, there are
three with the one that was dropped. -/
theorem overclosed_of_two_le (hkept : b.kept ≠ 0) (hcount : 2 ≤ b.last.count ']' + b.kept) :
    Overclosed text := by
  obtain ⟨n, hn⟩ := Nat.exists_eq_succ_of_ne_zero hkept
  have hmem : ']' ∈ b.last ++ List.replicate n ']' := by
    rw [← List.count_pos_iff, List.count_append, List.count_replicate_self]
    omega
  have hplain : ',' ∉ b.last ++ List.replicate n ']' := fun h ↦
    (List.mem_append.mp h).elim b.last_plain fun h ↦
      absurd (List.eq_of_mem_replicate h) (by decide)
  obtain ⟨outside, inside, hsplit, -⟩ := List.eq_append_cons_of_mem hmem
  rw [hsplit] at hplain
  refine ⟨b.front ++ '[' :: (b.early ++ outside), inside, ?_, by simp, fun h ↦ hplain (by simp [h])⟩
  have hclosings : b.closings = n + 2 := by
    rw [kept] at hn
    omega
  have htwo : List.replicate b.closings ']' = List.replicate n ']' ++ [']', ']'] := by
    rw [hclosings, List.replicate_add]
    rfl
  calc text = b.front ++ '[' :: (b.early ++ b.last) ++ List.replicate b.closings ']' := b.text_eq
    _ = b.front ++ '[' :: (b.early ++ (b.last ++ List.replicate n ']')) ++ [']', ']'] := by
      rw [htwo]
      simp
    _ = b.front ++ '[' :: (b.early ++ outside) ++ ']' :: inside ++ [']', ']'] := by
      rw [hsplit]
      simp

/-- The brackets that are left are such when there are two of them. -/
theorem overclosed_iff : Overclosed text ↔ b.kept ≠ 0 ∧ 2 ≤ b.last.count ']' + b.kept := by
  refine ⟨fun h ↦ ?_, fun ⟨hkept, hcount⟩ ↦ b.overclosed_of_two_le hkept hcount⟩
  obtain ⟨front, rest, inside, hdrop, hfront, hinside⟩ := h.exists_dropClosing
  refine ⟨b.kept_ne_zero ?_, b.two_le_count hinside (b.blob_eq hfront hdrop)⟩
  have hends : front ++ '[' :: (rest ++ (']' :: inside ++ [']'])) =
      front ++ '[' :: (rest ++ ']' :: inside) ++ [']'] := by simp
  rw [hdrop, hends, List.getLast?_concat]

end Bracketed

theorem readBy_dropClosing_iff (cs : List Char) :
    readBy dropClosing cs = readBy dropClosings cs ↔ ¬ Overclosed (trimChars cs) := by
  by_cases hopen : '[' ∈ trimChars cs
  · obtain ⟨b⟩ := nonempty_bracketed hopen
    rw [b.readBy_eq_iff, b.overclosed_iff]
    omega
  · rw [readBy_name hopen, readBy_name hopen]
    refine iff_of_true rfl ?_
    rintro ⟨before, inside, htext, hbefore, -⟩
    exact hopen (by rw [htext]; simp [hbefore])

theorem toTexts_injective : Function.Injective toTexts := by
  rintro ⟨a, as⟩ ⟨b, bs⟩ h
  obtain ⟨hname, hparams⟩ := Prod.mk.inj h
  have hinj : Function.Injective String.ofList := fun _ _ ↦ String.ofList_inj.mp
  exact Prod.ext (hinj hname) (List.map_injective_iff.mpr hinj hparams)

theorem means_one_iff (spec : String) (r : String × List String) :
    Means OneClosing spec r ↔ r = read spec := by
  refine means_iff OneClosing dropClosing (fun _ _ ↦ oneClosing_iff) (fun text hopen ↦ ?_) spec r
  obtain ⟨b⟩ := nonempty_bracketed hopen
  rw [b.dropClosing_eq]
  simp

theorem means_all_iff (spec : String) (r : String × List String) :
    Means AllClosing spec r ↔ r = toTexts (readBy dropClosings spec.toList) :=
  means_iff AllClosing dropClosings (fun _ _ ↦ allClosing_iff) (fun _ ↦ mem_dropClosings) spec r

theorem means_all_read_iff (spec : String) :
    Means AllClosing spec (read spec) ↔ ¬ Overclosed (trimChars spec.toList) := by
  rw [means_all_iff, read_eq, toTexts_injective.eq_iff, readBy_dropClosing_iff]

/-- **Reading a specification finds what it says**, and nothing else, if one closing bracket ends the
brackets.  That is also what it says if all closing brackets at its end do, unless it ends with two of them
and there is a third one in the last parameter. -/
theorem read_means (spec : String) : (∀ r, Means OneClosing spec r ↔ r = read spec) ∧
    (∃! r, Means AllClosing spec r) ∧
      (Means AllClosing spec (read spec) ↔ ¬ Overclosed (trimChars spec.toList)) :=
  ⟨means_one_iff spec, ⟨_, (means_all_iff spec _).mpr rfl, fun r ↦ (means_all_iff spec r).mp⟩,
    means_all_read_iff spec⟩

/-- Of three closing brackets at the end one is left to the parameter. -/
theorem not_forall_means_read : ¬ ∀ spec, Means AllClosing spec (read spec) := by
  intro hall
  refine (means_all_read_iff "A[1]]]").mp (hall _) ⟨"A[1".toList, [], by decide, by decide, by decide⟩

end Spec
end Rulebook
