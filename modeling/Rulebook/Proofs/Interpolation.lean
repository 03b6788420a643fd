import Rulebook.Proofs.JsonText
import Rulebook.Proofs.Translation
import Mathlib.Data.List.TakeWhile

/-!
# Putting values into a template is one pass

A placeholder is replaced where it stands, whatever stands around it, and what is put in for it is not
looked at again (`Template.interpolate_onePass`).

Why the text in front of a placeholder cannot get in its way: a placeholder has a percent sign at its
beginning and nowhere else (`Template.percent_notMem_tail`), so that none which begins earlier can reach
into it, and a template may be cut in front of any percent sign (`Template.fill_append`).  This is the
induction, along the characters in front of the cut; the characters of a placeholder that is passed over
all stand in front of it too.
-/

set_option autoImplicit false

namespace Rulebook
namespace Template

variable {values : List Entry} {name cs r : List Char} {c d : Char}

/-! ## Placeholders -/

/-- Names that placeholders have. -/
structure IsName (name : List Char) : Prop where
  ne_nil : name ≠ []
  word : ∀ c ∈ name, Text.isWordChar c = true

/-- The characters of the placeholder with a name. -/
def marker (name : List Char) : List Char := '%' :: '{' :: (name ++ ['}'])

/-- A placeholder occurs among characters. -/
def HasPlaceholder (cs : List Char) : Prop := ∃ name, IsName name ∧ marker name <:+: cs

theorem not_word_of_eq (h : c = '%' ∨ c = '{' ∨ c = '}') : Text.isWordChar c = false := by
  rcases h with rfl | rfl | rfl <;> decide +kernel

/-- The percent sign begins a placeholder and does not occur in it again. -/
theorem percent_notMem_tail (h : IsName name) : '%' ∉ '{' :: (name ++ ['}']) := by
  have hname : '%' ∉ name := fun hmem ↦
    Bool.false_ne_true ((not_word_of_eq (.inl rfl)).symm.trans (h.word _ hmem))
  simp [hname]

/-- **Characters begin with a placeholder of a name exactly when its characters stand there.** -/
theorem placeholder?_eq_some_iff :
    placeholder? cs = some name ↔ IsName name ∧ ∃ r, cs = marker name ++ r := by
  constructor
  · intro h
    rw [placeholder?.eq_def] at h
    split at h
    · rename_i r
      set word := r.takeWhile Text.isWordChar with hword
      have hr : r = word ++ r.drop word.length :=
        List.prefix_iff_eq_append.mp (List.takeWhile_prefix _) |>.symm
      dsimp only at h
      split at h
      · cases h
      · rename_i hempty
        split at h
        · rename_i r' hclose
          obtain rfl := Option.some.inj h
          refine ⟨⟨by simpa using hempty, fun c hc ↦ ?_⟩, r', ?_⟩
          · exact List.mem_takeWhile_imp hc
          · rw [hclose] at hr
            simpa [marker] using hr
        · cases h
    · cases h
  · rintro ⟨hname, r, rfl⟩
    have hclose : ('}' :: r).takeWhile Text.isWordChar = [] := by
      rw [List.takeWhile_cons, not_word_of_eq (.inr (.inr rfl))]
      rfl
    have hword : (name ++ '}' :: r).takeWhile Text.isWordChar = name := by
      rw [List.takeWhile_append_of_pos hname.word, hclose, List.append_nil]
    have hchars : marker name ++ r = '%' :: '{' :: (name ++ '}' :: r) := by simp [marker]
    rw [hchars, placeholder?, hword]
    simp [hname.ne_nil]

/-- **No placeholder reaches over a percent sign** behind its own: what stands from there on does not
matter. -/
theorem placeholder?_append (hcs : cs ≠ []) (r : List Char) :
    placeholder? (cs ++ '%' :: r) = placeholder? cs := by
  refine Option.ext fun name ↦ ?_
  rw [placeholder?_eq_some_iff, placeholder?_eq_some_iff]
  refine and_congr_right fun hname ↦ ⟨?_, ?_⟩
  · rintro ⟨r', heq⟩
    rcases List.append_eq_append_iff.mp heq with ⟨as, has, hr⟩ | ⟨as, has, -⟩
    · -- The placeholder would go on behind `cs`, so with the percent sign there.
      cases as with
      | nil => exact ⟨[], by simpa using has.symm⟩
      | cons a as =>
        obtain ⟨c, cs, rfl⟩ := List.exists_cons_of_ne_nil hcs
        obtain rfl : '%' = a := (List.cons.inj hr).1
        refine absurd ?_ (percent_notMem_tail hname)
        rw [(List.cons.inj has).2]
        simp
    · exact ⟨as, has⟩
  · rintro ⟨r', rfl⟩
    exact ⟨r' ++ '%' :: r, List.append_assoc ..⟩

/-! ## Cutting a template -/

theorem ok_bind {α β : Type} (a : α) (f : α → Except Failure β) : (Except.ok a >>= f) = f a := rfl

section

variable [Platform]

theorem fill_cons_of_none (h : placeholder? (c :: r) = none) :
    fill values 0 (c :: r) = do return c :: (← fill values 0 r) := by
  rw [fill, h]

/-- The characters of a placeholder that was replaced are passed over. -/
theorem fill_length_append (values : List Entry) (cs r : List Char) :
    fill values cs.length (cs ++ r) = fill values 0 r := by
  induction cs with
  | nil => rfl
  | cons c cs ih => rw [List.length_cons, List.cons_append, fill, ih]

/-- Characters without a percent sign stay as they are. -/
theorem fill_append_of_notMem (h : '%' ∉ cs) (r : List Char) :
    fill values 0 (cs ++ r) = do return cs ++ (← fill values 0 r) := by
  induction cs with
  | nil => simp
  | cons c cs ih =>
    rw [List.mem_cons, not_or] at h
    rw [List.cons_append, fill_cons_of_none (placeholder?_cons_of_ne (Ne.symm h.1) _), ih h.2]
    simp

/-- **A template may be cut in front of a percent sign.** -/
theorem fill_append (values : List Entry) (skip : Nat) (cs r : List Char)
    (h : skip ≤ cs.length) :
    fill values skip (cs ++ '%' :: r) = do
      let filled ← fill values skip cs
      return filled ++ (← fill values 0 ('%' :: r)) := by
  induction cs generalizing skip with
  | nil =>
    obtain rfl := Nat.le_zero.mp h
    rw [show fill values 0 [] = .ok [] from rfl, ok_bind]
    simp
  | cons c cs ih =>
    cases skip with
    | succ skip => simpa [fill] using ih skip (Nat.le_of_succ_le_succ h)
    | zero =>
      have hplace : placeholder? (c :: (cs ++ '%' :: r)) = placeholder? (c :: cs) :=
        placeholder?_append (List.cons_ne_nil c cs) r
      rw [List.cons_append, fill, fill, hplace]
      cases hname : placeholder? (c :: cs) with
      | none => simp [ih 0 (Nat.zero_le _)]
      | some name =>
        dsimp only
        cases Value.lookup (.text (String.ofList name)) values with
        | none => simp [ih 0 (Nat.zero_le _)]
        | some v =>
          -- The whole placeholder stands in front of the cut.
          obtain ⟨-, r', hr'⟩ := placeholder?_eq_some_iff.mp hname
          have hlength : name.length + 2 ≤ cs.length := by
            have hlength := congrArg List.length hr'
            simp [marker] at hlength
            omega
          simp only [ih (name.length + 2) hlength, bind_assoc, pure_bind, List.append_assoc]

/-- What is put in for a placeholder. -/
def replacement (values : List Entry) (name : List Char) : Except Failure (List Char) :=
  match Value.lookup (.text (String.ofList name)) values with
  | none => .ok (marker name)
  | some v => do return (← parameterText v).toList

/-- **A placeholder is replaced, and what stands behind it is filled by itself.** -/
theorem fill_marker_append (h : IsName name) (values : List Entry) (r : List Char) :
    fill values 0 (marker name ++ r) = do
      let text ← replacement values name
      return text ++ (← fill values 0 r) := by
  have hchars : marker name ++ r = '%' :: (('{' :: (name ++ ['}'])) ++ r) := rfl
  rw [hchars, fill, ← hchars, placeholder?_eq_some_iff.mpr ⟨h, r, rfl⟩, replacement]
  dsimp only
  cases Value.lookup (.text (String.ofList name)) values with
  | none =>
    rw [fill_append_of_notMem (percent_notMem_tail h), ok_bind]
    simp [marker]
  | some v =>
    have hlength : name.length + 2 = ('{' :: (name ++ ['}'])).length := by simp
    dsimp only
    rw [hlength, fill_length_append]
    simp

/-- Characters among which no placeholder occurs stay as they are. -/
theorem fill_of_not_hasPlaceholder (h : ¬ HasPlaceholder cs) :
    fill values 0 cs = .ok cs := by
  induction cs with
  | nil => rfl
  | cons c r ih =>
    have hnone : placeholder? (c :: r) = none := by
      rw [Option.eq_none_iff_forall_ne_some]
      rintro name hname
      obtain ⟨hname, r', hr'⟩ := placeholder?_eq_some_iff.mp hname
      exact h ⟨name, hname, hr' ▸ (List.prefix_append _ _).isInfix⟩
    have hr : ¬ HasPlaceholder r := fun ⟨name, hname, hr⟩ ↦
      h ⟨name, hname, hr.trans (List.suffix_cons c r).isInfix⟩
    rw [fill_cons_of_none hnone, ih hr]
    rfl

end

/-! ## Interpolating -/

/-- A placeholder as it is written. -/
def written (name : String) : String := String.ofList (marker name.toList)

section

variable [Platform]

/-- The text that stands in for a placeholder: the placeholder itself when no parameter has its name,
nothing for null, the texts of the items of a list or tuple with commas between them, and the text of
any other value. -/
inductive Replaces (values : List Entry) (name : String) : String → Prop
  | unknown (h : Value.lookup (.text name) values = none) : Replaces values name (written name)
  | null (h : Value.lookup (.text name) values = some .null) : Replaces values name ""
  | items {v : Value} {xs : List Value} {texts : List String}
      (h : Value.lookup (.text name) values = some v) (hxs : v.items? = some xs)
      (htexts : List.Forall₂ (fun x text ↦ x.display = .ok text) xs texts) :
      Replaces values name (String.intercalate ", " texts)
  | other {v : Value} {text : String} (h : Value.lookup (.text name) values = some v)
      (hnull : v ≠ .null) (hitems : v.items? = none) (htext : v.display = .ok text) :
      Replaces values name text

theorem parameterText_of_items {v : Value} {xs : List Value} (h : v.items? = some xs) :
    parameterText v = do return joinWith ", " (← xs.mapM Value.display) := by
  cases v <;> cases h <;> rfl

theorem parameterText_of_not_items {v : Value} (hnull : v ≠ .null)
    (h : v.items? = none) :
    parameterText v = v.display := by
  cases v <;> first | rfl | exact absurd rfl hnull | cases h

/-- What is put in for a placeholder is the text that stands in for it. -/
theorem exists_replaces (hvalues : ∀ e ∈ values, Succeeds e.2.display) (name : String) :
    ∃ text, replacement values name.toList = .ok text.toList ∧ Replaces values name text := by
  rw [replacement, String.ofList_toList]
  cases hlookup : Value.lookup (.text name) values with
  | none => exact ⟨written name, by simp [written], .unknown hlookup⟩
  | some v =>
    obtain ⟨e, he, rfl⟩ := exists_mem_of_lookup hlookup
    obtain ⟨text, htext⟩ := succeeds_parameterText (hvalues e he)
    refine ⟨text, by simp only [htext]; rfl, ?_⟩
    by_cases hnull : e.2 = .null
    · rw [hnull] at htext hlookup
      obtain rfl := Except.ok.inj htext
      exact .null hlookup
    · cases hitems : e.2.items? with
      | none =>
        rw [parameterText_of_not_items hnull hitems] at htext
        exact .other hlookup hnull hitems htext
      | some xs =>
        rw [parameterText_of_items hitems] at htext
        obtain ⟨texts, htexts, h⟩ := bind_eq_ok htext
        obtain rfl := Except.ok.inj h
        exact .items hlookup hitems (mapM_eq_ok_iff.mp htexts)

/-- **Interpolation is one pass from left to right**, for parameters that can be shown: a placeholder is
replaced by the text of its parameter, as it is, between what the texts around it become by themselves;
and a template without placeholders does not change. -/
theorem interpolate_onePass (hvalues : ∀ e ∈ values, Succeeds e.2.display) :
    (∀ before name after : String, IsName name.toList →
      ∃ filled text filled', interpolate before values = .ok filled ∧ Replaces values name text ∧
        interpolate after values = .ok filled' ∧
        interpolate (before ++ written name ++ after) values = .ok (filled ++ text ++ filled')) ∧
    ∀ template : String, ¬ HasPlaceholder template.toList →
      interpolate template values = .ok template := by
  refine ⟨fun before name after hname ↦ ?_, fun template h ↦ ?_⟩
  · have hfill : ∀ cs, ∃ filled, fill values 0 cs = .ok filled := fun cs ↦
      (failsOnly_fill (fun e he ↦ (succeeds_parameterText (hvalues e he)).failsOnly) 0 cs).succeeds
    obtain ⟨filled, hfilled⟩ := hfill before.toList
    obtain ⟨filled', hfilled'⟩ := hfill after.toList
    obtain ⟨text, htext, hreplaces⟩ := exists_replaces hvalues name
    refine ⟨String.ofList filled, text, String.ofList filled', by rw [interpolate, hfilled]; rfl,
      hreplaces, by rw [interpolate, hfilled']; rfl, ?_⟩
    have hchars : (before ++ written name ++ after).toList =
        before.toList ++ '%' :: ('{' :: (name.toList ++ ['}']) ++ after.toList) := by
      simp [written, marker]
    have hmarker : '%' :: ('{' :: (name.toList ++ ['}']) ++ after.toList) =
        marker name.toList ++ after.toList := rfl
    rw [interpolate, hchars, fill_append values 0 _ _ (Nat.zero_le _), hfilled, hmarker,
      fill_marker_append hname, htext, hfilled']
    simp [ok_bind, String.append_assoc]
  · rw [interpolate, fill_of_not_hasPlaceholder h]
    simp

end

namespace Echo

open scoped Platform

/-- Parameters, one of which writes a placeholder of another. -/
def echoing : List Entry :=
  [(.text "name", .text (written "tags")), (.text "tags", .list [.text "a", .null])]

/-- The placeholder in the parameter stays, though the template has a percent sign before it and a brace
behind it. -/
theorem interpolate_onePass_echo :
    (∀ e ∈ echoing, Succeeds e.2.display) ∧ IsName "name".toList ∧
      ∃ filled text filled', interpolate "100%" echoing = .ok filled ∧ Replaces echoing "name" text ∧
        interpolate "\x7d" echoing = .ok filled' ∧
        interpolate ("100%" ++ written "name" ++ "\x7d") echoing = .ok (filled ++ text ++ filled') := by
  have hechoing : ∀ e ∈ echoing, Succeeds e.2.display := by
    intro e he
    rcases List.mem_pair.mp he with rfl | rfl
    · exact ⟨_, rfl⟩
    · exact ⟨_, rfl⟩
  have hname : IsName "name".toList := by
    refine ⟨by decide, ?_⟩
    simp only [String.reduceToList, List.forall_mem_cons]
    exact ⟨rfl, rfl, rfl, rfl, List.forall_mem_nil _⟩
  exact ⟨hechoing, hname, (interpolate_onePass hechoing).1 "100%" "name" "\x7d" hname⟩

example : interpolate ("100%" ++ written "name" ++ "\x7d") echoing =
    .ok ("100%" ++ written "tags" ++ "\x7d") := by
  cbv

end Echo

end Template
end Rulebook
