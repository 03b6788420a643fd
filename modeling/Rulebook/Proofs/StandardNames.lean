import Rulebook.Proofs.RegistryHistory
import Mathlib.Data.List.Find

/-!
# Registering the standard rules

What names resolve to once the standard rules and their other spellings are registered
(`Registry.registerStandard`).  There are two ways to do this.

* Names that resolve already may be kept.  Then a registration binds free names only, and it does so
  one after another: what carries the induction is that binding a free name leaves all others as they
  are (`find?_bind_of_free`, `find?_withAlias_of_free`).  This needs that no alias is left without a
  rule to stand for (`Registry.Anchored`), which is so for every registry that comes about
  (`Registry.Reachable`).
* They may be taken over.  Then a spelling is made an alias again, and a rule that is bound to the
  spelling itself still comes first (`registerStandard_overwrites`).

A name that is kept because an alias makes it resolve has no rule of its own, so nothing can be made
an alias of it.  This is when keeping names does not succeed (`registerStandard_keeps_iff`).
-/

set_option autoImplicit false

namespace Rulebook
namespace Registry

open StandardRule (spellings)

variable {r : Registry} {n m a k : String} {f : Value} {rules : List StandardRule}
  {es : List (String × StandardRule)}

/-! ## Registries that come about -/

/-- What calls and registrations of the standard rules make of a new registry, whether they succeed or
not. -/
inductive Reachable [Platform] : Registry → Prop
  | start : Reachable empty
  | call {r : Registry} (h : Reachable r) (c : RegistryCall) : Reachable (r.step c)
  | standard {r : Registry} (h : Reachable r) (overwrite : Bool) :
      Reachable (r.registerStandard overwrite).1

/-- Every alias is for a name with a rule of its own. -/
def Anchored (r : Registry) : Prop :=
  ∀ a k, r.aliases.lookup a = some k → (r.direct? k).isSome = true

/-- A registry with one more alias. -/
def withAlias (r : Registry) (a k : String) : Registry := { r with aliases := putKey a k r.aliases }

theorem direct?_bind (r : Registry) (n m : String) (f : Value) :
    (r.bind n f).direct? m = if m = n then some f else r.direct? m :=
  lookup_putKey n m f r.rules

theorem isSome_direct?_bind (h : (r.direct? m).isSome = true) :
    ((r.bind n f).direct? m).isSome = true := by
  rw [direct?_bind]
  split
  · rfl
  · exact h

theorem anchored_empty : Anchored empty := nofun

theorem Anchored.bind (hr : r.Anchored) : (r.bind n f).Anchored :=
  fun a k h ↦ isSome_direct?_bind (hr a k h)

theorem Anchored.withAlias (hr : r.Anchored) (hk : (r.direct? k).isSome = true) :
    (r.withAlias a k).Anchored := by
  intro b l h
  rw [Registry.withAlias, lookup_putKey] at h
  split at h
  · exact Option.some.inj h ▸ hk
  · exact hr b l h

theorem Anchored.step [Platform] (hr : r.Anchored) (c : RegistryCall) : (r.step c).Anchored := by
  cases hc : r.call c with
  | error e =>
    rw [step_of_error (hc ▸ not_succeeds_error e)]
    exact hr
  | ok r' =>
    rw [step_of_ok hc]
    cases c with
    | register name rule =>
      obtain ⟨n, hn, hcallable⟩ := exists_of_register hc
      rw [register_of_name? hn hcallable] at hc
      exact Except.ok.inj hc ▸ hr.bind
    | addAlias aliased canonical =>
      obtain ⟨a, k, hn, rfl, hk⟩ := exists_of_addAlias hc
      rw [addAlias_of_name? hn hk] at hc
      exact Except.ok.inj hc ▸ hr.withAlias hk
    | clear => exact Except.ok.inj hc ▸ anchored_empty

/-! ## Free names -/

theorem direct?_eq_none (h : r.find? n = none) : r.direct? n = none :=
  (Option.or_eq_none_iff.mp h).1

theorem isFree_true (r : Registry) (n : String) : isFree true r n = true := rfl

theorem isFree_false : isFree false r n = true ↔ r.find? n = none := by
  rw [isFree, Bool.false_or, Option.isNone_iff_eq_none]

/-- A rule that is bound to a free name leaves all other names as they are: none of them can be an
alias of it. -/
theorem find?_bind_of_free (hr : r.Anchored) (hn : r.find? n = none) (f : Value) (m : String) :
    (r.bind n f).find? m = if m = n then some f else r.find? m := by
  rw [find?, direct?_bind]
  split
  · rfl
  · rw [find?]
    refine congrArg ((r.direct? m).or ·) ?_
    show (r.aliases.lookup m).bind _ = _
    cases hm : r.aliases.lookup m with
    | none => rfl
    | some k =>
      have hk := hr m k hm
      have hne : k ≠ n := by
        rintro rfl
        rw [direct?_eq_none hn] at hk
        cases hk
      rw [Option.bind_some, Option.bind_some, direct?_bind, if_neg hne]

/-- An alias with a free name leaves all other names as they are. -/
theorem find?_withAlias_of_free (ha : r.find? a = none) (k m : String) :
    (r.withAlias a k).find? m = if m = a then r.direct? k else r.find? m := by
  show (r.direct? m).or (((putKey a k r.aliases).lookup m).bind r.direct?) = _
  rw [lookup_putKey]
  split
  · rename_i hm
    rw [hm, direct?_eq_none ha]
    rfl
  · rfl

/-! ## Keeping names -/

theorem bindEach_of_free {overwrite : Bool} {s : StandardRule}
    (h : isFree overwrite r s.name = true) :
    (bindEach overwrite (s :: rules) r).1 =
      (bindEach overwrite rules (r.bind s.name (.rule s))).1 := by
  rw [bindEach, if_pos h]

theorem bindEach_of_not_free {overwrite : Bool} {s : StandardRule}
    (h : ¬ isFree overwrite r s.name = true) :
    (bindEach overwrite (s :: rules) r).1 = (bindEach overwrite rules r).1 := by
  rw [bindEach, if_neg h]

theorem Anchored.bindEach (hr : r.Anchored) (overwrite : Bool) (rules : List StandardRule) :
    (Registry.bindEach overwrite rules r).1.Anchored := by
  induction rules generalizing r with
  | nil => exact hr
  | cons s rest ih =>
    by_cases h : isFree overwrite r s.name = true
    · rw [bindEach_of_free h]
      exact ih hr.bind
    · rw [bindEach_of_not_free h]
      exact ih hr

/-- **Names that resolve are kept, and the others are bound to the rules of these names.** -/
theorem find?_bindEach (hr : r.Anchored) (rules : List StandardRule) (n : String) :
    (bindEach false rules r).1.find? n =
      (r.find? n).or ((rules.find? fun s ↦ s.name == n).map Value.rule) := by
  induction rules generalizing r with
  | nil => exact (Option.or_none).symm
  | cons s rest ih =>
    rw [List.find?_cons]
    by_cases h : isFree false r s.name = true
    · have hfree := isFree_false.mp h
      rw [bindEach_of_free h, ih hr.bind, find?_bind_of_free hr hfree]
      by_cases hn : n = s.name
      · rw [if_pos hn, hn, hfree, beq_self_eq_true]
        rfl
      · rw [if_neg hn, beq_false_of_ne (Ne.symm hn)]
    · rw [bindEach_of_not_free h, ih hr]
      by_cases hn : n = s.name
      · obtain ⟨f, hf⟩ := Option.ne_none_iff_exists'.mp (mt isFree_false.mpr h)
        rw [hn, hf]
        rfl
      · rw [beq_false_of_ne (Ne.symm hn)]

/-- A name has a rule of its own afterwards when it had one or did not resolve. -/
theorem direct?_bindEach (hr : r.Anchored) (rules : List StandardRule) (n : String) :
    (bindEach false rules r).1.direct? n =
      if r.find? n = none then (rules.find? fun s ↦ s.name == n).map Value.rule
      else r.direct? n := by
  induction rules generalizing r with
  | nil =>
    split
    · rename_i h
      exact direct?_eq_none h
    · rfl
  | cons s rest ih =>
    rw [List.find?_cons]
    by_cases h : isFree false r s.name = true
    · have hfree := isFree_false.mp h
      rw [bindEach_of_free h, ih hr.bind, find?_bind_of_free hr hfree, direct?_bind]
      by_cases hn : n = s.name
      · rw [if_pos hn, if_pos hn, hn, hfree, beq_self_eq_true]
        rfl
      · rw [if_neg hn, if_neg hn, beq_false_of_ne (Ne.symm hn)]
    · rw [bindEach_of_not_free h, ih hr]
      by_cases hn : n = s.name
      · rw [hn, if_neg (mt isFree_false.mpr h), if_neg (mt isFree_false.mpr h)]
      · rw [beq_false_of_ne (Ne.symm hn)]

/-! ## Other spellings -/

/-- A table of spellings: its texts are no blanks, and none stands twice in it. -/
structure IsSpelling (es : List (String × StandardRule)) : Prop where
  named : ∀ e ∈ es, name? (.text e.1) = some e.1
  distinct : (es.map Prod.fst).Nodup

theorem IsSpelling.tail {e : String × StandardRule} (h : IsSpelling (e :: es)) : IsSpelling es :=
  ⟨fun d hd ↦ h.named d (List.mem_cons_of_mem e hd), (List.nodup_cons.mp h.distinct).2⟩

theorem isSpelling_spellings : IsSpelling spellings :=
  ⟨by decide, by decide⟩

theorem addAlias_of_direct [Platform] (ha : name? (.text a) = some a)
    (hk : (r.direct? k).isSome = true) :
    r.addAlias (.text a) (.text k) = .ok (r.withAlias a k) :=
  addAlias_of_name? ha hk

theorem addAlias_of_none [Platform] (ha : name? (.text a) = some a) (hk : r.direct? k = none) :
    r.addAlias (.text a) (.text k) = .error (.unknownCanonical a k) := by
  rw [addAlias, ha]
  simp only [hk, Option.isSome_none, Bool.false_eq_true, if_false]
  rfl

section Step

variable [Platform]
variable {overwrite : Bool} {s : StandardRule}

theorem aliasEach_of_not_free (h : ¬ isFree overwrite r a = true) :
    aliasEach overwrite ((a, s) :: es) r = aliasEach overwrite es r := by
  rw [aliasEach, if_neg h]

theorem aliasEach_of_direct (h : isFree overwrite r a = true) (ha : name? (.text a) = some a)
    (hk : (r.direct? s.name).isSome = true) :
    aliasEach overwrite ((a, s) :: es) r = aliasEach overwrite es (r.withAlias a s.name) := by
  rw [aliasEach, if_pos h, addAlias_of_direct ha hk]

theorem aliasEach_of_none (h : isFree overwrite r a = true) (ha : name? (.text a) = some a)
    (hk : r.direct? s.name = none) :
    aliasEach overwrite ((a, s) :: es) r = (r, some (.unknownCanonical a s.name)) := by
  rw [aliasEach, if_pos h, addAlias_of_none ha hk]

/-- Spellings are aliases: they leave the rules that are bound to names, and no alias without one. -/
theorem aliasEach_keeps (hes : IsSpelling es) {P : Registry → Prop}
    (hstep : ∀ r a k, (r.direct? k).isSome = true → P r → P (r.withAlias a k)) (hr : P r) :
    P (aliasEach overwrite es r).1 := by
  induction es generalizing r with
  | nil => exact hr
  | cons e rest ih =>
    obtain ⟨a, s⟩ := e
    have ha := hes.named _ List.mem_cons_self
    by_cases h : isFree overwrite r a = true
    · cases hk : r.direct? s.name with
      | none =>
        rw [aliasEach_of_none h ha hk]
        exact hr
      | some f =>
        have hsome : (r.direct? s.name).isSome = true := hk ▸ rfl
        rw [aliasEach_of_direct h ha hsome]
        exact ih hes.tail (hstep r a s.name hsome hr)
    · rw [aliasEach_of_not_free h]
      exact ih hes.tail hr

theorem direct?_aliasEach (hes : IsSpelling es) (r : Registry) (n : String) :
    (aliasEach overwrite es r).1.direct? n = r.direct? n :=
  aliasEach_keeps hes (P := fun t ↦ t.direct? n = r.direct? n) (fun _ _ _ _ h ↦ h) rfl

theorem Anchored.aliasEach (hes : IsSpelling es) (hr : r.Anchored) :
    (Registry.aliasEach overwrite es r).1.Anchored :=
  aliasEach_keeps hes (fun _ _ _ hk h ↦ h.withAlias hk) hr

end Step

theorem Reachable.anchored [Platform] (h : Reachable r) : r.Anchored := by
  induction h with
  | start => exact anchored_empty
  | call _ c ih => exact ih.step c
  | standard _ overwrite ih =>
    exact (ih.bindEach overwrite StandardRule.all).aliasEach isSpelling_spellings

/-- A spelling that does not resolve, of a rule whose name has no rule of its own. -/
def isStuck (r : Registry) (e : String × StandardRule) : Bool :=
  (r.find? e.1).isNone && (r.direct? e.2.name).isNone

section

variable [Platform]

/-- **The first spelling that is stuck ends it**, and only such a one does. -/
theorem failure_aliasEach (hes : IsSpelling es) (r : Registry) :
    (aliasEach false es r).2 =
      (es.find? r.isStuck).map fun e ↦ .unknownCanonical e.1 e.2.name := by
  induction es generalizing r with
  | nil => rfl
  | cons e rest ih =>
    obtain ⟨a, s⟩ := e
    have ha := hes.named _ List.mem_cons_self
    rw [List.find?_cons, isStuck]
    by_cases h : isFree false r a = true
    · have hfree := isFree_false.mp h
      cases hk : r.direct? s.name with
      | none =>
        rw [aliasEach_of_none h ha hk, hfree]
        rfl
      | some f =>
        rw [aliasEach_of_direct h ha (hk ▸ rfl), ih hes.tail, hfree]
        refine congrArg (Option.map _) (List.find?_congr fun e he ↦ ?_)
        have hne : e.1 ≠ a := fun heq ↦
          (List.nodup_cons.mp hes.distinct).1 (List.mem_map.mpr ⟨e, he, heq⟩)
        rw [isStuck, isStuck, find?_withAlias_of_free hfree, if_neg hne]
        rfl
    · rw [aliasEach_of_not_free h, ih hes.tail, Option.isNone_eq_false_iff.mpr]
      · rfl
      · exact Option.isSome_iff_ne_none.mpr (mt isFree_false.mpr h)

/-- Names that resolve are kept. -/
theorem find?_aliasEach_of_some (hes : IsSpelling es) (h : r.find? n = some f) :
    (aliasEach false es r).1.find? n = some f := by
  induction es generalizing r with
  | nil => exact h
  | cons e rest ih =>
    obtain ⟨a, s⟩ := e
    have ha := hes.named _ List.mem_cons_self
    by_cases hfree : isFree false r a = true
    · cases hk : r.direct? s.name with
      | none =>
        rw [aliasEach_of_none hfree ha hk]
        exact h
      | some g =>
        rw [aliasEach_of_direct hfree ha (hk ▸ rfl)]
        refine ih hes.tail ?_
        have hne : n ≠ a := by
          rintro rfl
          rw [isFree_false.mp hfree] at h
          cases h
        rw [find?_withAlias_of_free (isFree_false.mp hfree), if_neg hne]
        exact h
    · rw [aliasEach_of_not_free hfree]
      exact ih hes.tail h

/-- When nothing ends it, every spelling resolves. -/
theorem isSome_find?_aliasEach (hes : IsSpelling es)
    (h : (aliasEach false es r).2 = none) :
    ∀ e ∈ es, ((aliasEach false es r).1.find? e.1).isSome = true := by
  induction es generalizing r with
  | nil => exact nofun
  | cons e rest ih =>
    obtain ⟨a, s⟩ := e
    have ha := hes.named _ List.mem_cons_self
    refine List.forall_mem_cons.mpr ?_
    by_cases hfree : isFree false r a = true
    · cases hk : r.direct? s.name with
      | none =>
        rw [aliasEach_of_none hfree ha hk] at h
        cases h
      | some g =>
        have hsome : (r.direct? s.name).isSome = true := hk ▸ rfl
        have hstep : aliasEach false ((a, s) :: rest) r =
            aliasEach false rest (r.withAlias a s.name) := aliasEach_of_direct hfree ha hsome
        rw [hstep] at h ⊢
        refine ⟨?_, ih hes.tail h⟩
        have hbound : (r.withAlias a s.name).find? a = some g := by
          rw [find?_withAlias_of_free (isFree_false.mp hfree), if_pos rfl, hk]
        rw [find?_aliasEach_of_some hes.tail hbound]
        rfl
    · rw [aliasEach_of_not_free hfree] at h ⊢
      refine ⟨?_, ih hes.tail h⟩
      obtain ⟨f, hf⟩ := Option.ne_none_iff_exists'.mp (mt isFree_false.mpr hfree)
      rw [find?_aliasEach_of_some hes.tail hf]
      rfl

/-! ## Keeping names: the whole registration -/

theorem registered_eq (overwrite : Bool) (r : Registry) :
    (r.registerStandard overwrite).1 =
    (aliasEach overwrite spellings (bindEach overwrite StandardRule.all r).1).1 := rfl

theorem failure_eq (overwrite : Bool) (r : Registry) :
    (r.registerStandard overwrite).2.2 =
    (aliasEach overwrite spellings (bindEach overwrite StandardRule.all r).1).2 := rfl

end

theorem ofName?_name (s : StandardRule) : StandardRule.ofName? s.name = some s := by
  cases s <;> decide

/-- No other spelling is the name of a rule. -/
theorem ofName?_spelling : ∀ e ∈ spellings, StandardRule.ofName? e.1 = none := by
  decide

theorem find?_registerStandard_of_some [Platform] (hr : r.Anchored) (h : r.find? n = some f) :
    (r.registerStandard false).1.find? n = some f := by
  rw [registered_eq]
  refine find?_aliasEach_of_some isSpelling_spellings ?_
  rw [find?_bindEach hr, h]
  rfl

theorem isSome_find?_registerStandard [Platform] (hr : r.Anchored) (s : StandardRule) :
    ((r.registerStandard false).1.find? s.name).isSome = true := by
  obtain ⟨f, hf⟩ : ∃ f, (bindEach false StandardRule.all r).1.find? s.name = some f := by
    rw [find?_bindEach hr, ← StandardRule.ofName?, ofName?_name]
    cases r.find? s.name with
    | none => exact ⟨.rule s, rfl⟩
    | some f => exact ⟨f, rfl⟩
  rw [registered_eq, find?_aliasEach_of_some isSpelling_spellings hf]
  rfl

/-- A spelling is stuck when it does not resolve, and an alias, but no rule of its own, makes the
rule's name resolve. -/
theorem isStuck_bindEach (hr : r.Anchored) {e : String × StandardRule} (he : e ∈ spellings) :
    (bindEach false StandardRule.all r).1.isStuck e = true ↔
      r.find? e.1 = none ∧ r.direct? e.2.name = none ∧ r.find? e.2.name ≠ none := by
  rw [isStuck, find?_bindEach hr, direct?_bindEach hr, ← StandardRule.ofName?,
    ← StandardRule.ofName?, ofName?_spelling e he, ofName?_name, Option.map_none, Option.or_none,
    Bool.and_eq_true, Option.isNone_iff_eq_none, Option.isNone_iff_eq_none]
  refine and_congr_right fun _ ↦ ?_
  split
  · rename_i h
    exact ⟨nofun, fun hne ↦ absurd h hne.2⟩
  · rename_i h
    exact (and_iff_left h).symm

/-- What a registration that keeps names promises: it succeeds, names that resolved resolve to the
same rules, and the names of all standard rules and all their other spellings resolve. -/
structure KeepsNames [Platform] (r : Registry) : Prop where
  succeeds : (r.registerStandard false).2.2 = none
  kept : ∀ n f, r.find? n = some f → (r.registerStandard false).1.find? n = some f
  standard : ∀ s : StandardRule, ((r.registerStandard false).1.find? s.name).isSome = true
  spelled : ∀ e ∈ spellings, ((r.registerStandard false).1.find? e.1).isSome = true

/-- **When keeping names succeeds.**  Names that resolved are kept in any case, and the names of all
standard rules resolve.  The other spellings resolve, and the registration succeeds, unless a spelling
resolves to nothing while it is an alias alone that makes the name of its rule resolve. -/
theorem registerStandard_keeps_iff [Platform] (h : Reachable r) :
    (∀ n f, r.find? n = some f → (r.registerStandard false).1.find? n = some f) ∧
      (∀ s : StandardRule, ((r.registerStandard false).1.find? s.name).isSome = true) ∧
      (r.KeepsNames ↔ ∀ e ∈ spellings, (r.find? e.1).isSome = true ∨
        (r.direct? e.2.name).isSome = true ∨ r.find? e.2.name = none) := by
  have hr := h.anchored
  have hkept : ∀ n f, r.find? n = some f → (r.registerStandard false).1.find? n = some f :=
    fun _ _ ↦ find?_registerStandard_of_some hr
  have hstandard := isSome_find?_registerStandard hr
  have hfailure : (r.registerStandard false).2.2 = none ↔ ∀ e ∈ spellings,
      ¬ (bindEach false StandardRule.all r).1.isStuck e = true := by
    rw [failure_eq, failure_aliasEach isSpelling_spellings, Option.map_eq_none_iff,
      List.find?_eq_none]
  have hstuck : ∀ e ∈ spellings, (¬ (bindEach false StandardRule.all r).1.isStuck e = true ↔
      (r.find? e.1).isSome = true ∨ (r.direct? e.2.name).isSome = true ∨
        r.find? e.2.name = none) := fun e he ↦ by
    rw [isStuck_bindEach hr he, not_and_or, not_and_or, not_not, Option.isSome_iff_ne_none,
      Option.isSome_iff_ne_none]
  refine ⟨hkept, hstandard, ?_⟩
  rw [← forall₂_congr hstuck, ← hfailure]
  refine ⟨KeepsNames.succeeds, fun hnone ↦ ⟨hnone, hkept, hstandard, ?_⟩⟩
  rw [registered_eq]
  rw [failure_eq] at hnone
  exact isSome_find?_aliasEach isSpelling_spellings hnone

namespace Sample

open scoped Platform

/-- A rule of a program's own, under a name of its own and under one spelling of a standard rule. -/
def ownRule : Registry :=
  after [.register (.text "Own") (.callable "own" none),
    .addAlias (.text "NumberNotEqual") (.text "Own"), .addAlias (.text "Number") (.text "Own")]

theorem reachable_after (calls : List RegistryCall) : Reachable (after calls) := by
  induction calls using List.reverseRecOn with
  | nil => exact .start
  | append_singleton calls c ih =>
    rw [after_concat]
    exact .call ih c

theorem registerStandard_keeps_ownRule : Reachable ownRule ∧ ownRule.KeepsNames :=
  ⟨reachable_after _, (registerStandard_keeps_iff (reachable_after _)).2.2.mpr (by decide)⟩

/-- A rule of a program's own that is given the name of a standard rule by an alias. -/
def aliasedName : Registry :=
  after [.register (.text "Own") (.callable "own" none),
    .addAlias (.text "NumberIsDifferentFrom") (.text "Own")]

/-- Not every registration that keeps names succeeds. -/
theorem not_forall_keepsNames : ¬ ∀ r, Reachable r → r.KeepsNames := by
  intro h
  have hnone := (h aliasedName (reachable_after _)).succeeds
  have hsome : (aliasedName.registerStandard false).2.2.isSome = true := by
    decide
  rw [hnone] at hsome
  cases hsome

end Sample

/-! ## Taking names over -/

theorem direct?_bindEach_overwrite (h : (rules.map StandardRule.name).Nodup) (r : Registry)
    (n : String) : (bindEach true rules r).1.direct? n =
      ((rules.find? fun s ↦ s.name == n).map Value.rule).or (r.direct? n) := by
  induction rules generalizing r with
  | nil => rfl
  | cons s rest ih =>
    rw [List.map_cons, List.nodup_cons] at h
    rw [bindEach_of_free (isFree_true r s.name), ih h.2, direct?_bind, List.find?_cons]
    by_cases hn : n = s.name
    · have hnone : (rest.find? fun t ↦ t.name == n) = none := by
        rw [List.find?_eq_none]
        intro t ht heq
        exact h.1 (List.mem_map.mpr ⟨t, ht, (eq_of_beq heq).trans hn⟩)
      rw [hnone, if_pos hn, hn, beq_self_eq_true]
      rfl
    · rw [if_neg hn, beq_false_of_ne (Ne.symm hn)]

/-- When all their rules are bound, all spellings become aliases. -/
theorem aliasEach_overwrite [Platform] (hes : IsSpelling es)
    (h : ∀ e ∈ es, (r.direct? e.2.name).isSome = true) : aliasEach true es r =
      ({ r with aliases := putKeys (es.map fun e ↦ (e.1, e.2.name)) r.aliases }, none) := by
  induction es generalizing r with
  | nil => rfl
  | cons e rest ih =>
    obtain ⟨a, s⟩ := e
    have hstep : aliasEach true ((a, s) :: rest) r = aliasEach true rest (r.withAlias a s.name) :=
      aliasEach_of_direct (isFree_true r a) (hes.named _ List.mem_cons_self)
        (h _ List.mem_cons_self)
    have hrest := ih (r := r.withAlias a s.name) hes.tail
      fun e he ↦ h e (List.mem_cons_of_mem _ he)
    exact hstep.trans hrest

theorem nodup_names : (StandardRule.all.map StandardRule.name).Nodup := by
  decide

theorem direct?_registerStandard_overwrite [Platform] (r : Registry) (n : String) :
    (r.registerStandard true).1.direct? n =
      ((StandardRule.ofName? n).map Value.rule).or (r.direct? n) := by
  rw [registered_eq, direct?_aliasEach isSpelling_spellings,
    direct?_bindEach_overwrite nodup_names, StandardRule.ofName?]

/-- The aliases that the other spellings are made. -/
def spellingAliases : List (String × String) := spellings.map fun e ↦ (e.1, e.2.name)

theorem registerStandard_overwrite [Platform] (r : Registry) :
    ((r.registerStandard true).1.aliases =
      putKeys spellingAliases (bindEach true StandardRule.all r).1.aliases) ∧
      (r.registerStandard true).2.2 = none := by
  have h := aliasEach_overwrite (r := (bindEach true StandardRule.all r).1) isSpelling_spellings
    fun e _ ↦ by
      rw [direct?_bindEach_overwrite nodup_names, ← StandardRule.ofName?, ofName?_name]
      rfl
  rw [registered_eq, failure_eq, h]
  exact ⟨rfl, rfl⟩

/-- A spelling resolves to the rule that is bound to it, and to its standard rule without one. -/
theorem find?_spelling_overwrite [Platform] (r : Registry) {e : String × StandardRule}
    (he : e ∈ spellings) :
    (r.registerStandard true).1.find? e.1 = (r.direct? e.1).or (some (.rule e.2)) := by
  have halias : spellingAliases.lookup e.1 = some e.2.name := by
    revert e
    decide
  rw [find?, direct?_registerStandard_overwrite, ofName?_spelling e he,
    (registerStandard_overwrite r).1, lookup_putKeys (by decide), halias, Option.map_none,
    Option.none_or, Option.some_or, Option.bind_some, direct?_registerStandard_overwrite,
    ofName?_name, Option.map_some, Option.some_or]

/-- What a registration that takes names over promises: it succeeds, the names of all standard rules
and all their other spellings resolve to these, and any other name with a rule of its own keeps it. -/
structure TakesOver [Platform] (r : Registry) : Prop where
  succeeds : (r.registerStandard true).2.2 = none
  standard : ∀ s : StandardRule, (r.registerStandard true).1.find? s.name = some (.rule s)
  spelled : ∀ e ∈ spellings, (r.registerStandard true).1.find? e.1 = some (.rule e.2)
  others : ∀ n f, StandardRule.ofName? n = none → spellings.lookup n = none →
    r.direct? n = some f → (r.registerStandard true).1.find? n = some f

/-- **When names are taken over.**  This fails for a spelling only, and exactly when a rule that is
not its standard rule is bound to the spelling itself. -/
theorem registerStandard_overwrites_iff [Platform] (r : Registry) :
    r.TakesOver ↔ ∀ e ∈ spellings, ∀ f, r.direct? e.1 = some f → f = .rule e.2 := by
  constructor
  · intro h e he f hf
    have hspelled := h.spelled e he
    rw [find?_spelling_overwrite r he, hf] at hspelled
    exact Option.some.inj hspelled
  · intro h
    refine ⟨(registerStandard_overwrite r).2, fun s ↦ ?_, fun e he ↦ ?_, fun n f hn _ hf ↦ ?_⟩
    · rw [find?, direct?_registerStandard_overwrite, ofName?_name]
      rfl
    · rw [find?_spelling_overwrite r he]
      cases hf : r.direct? e.1 with
      | none => rfl
      | some f => rw [h e he f hf]; rfl
    · rw [find?, direct?_registerStandard_overwrite, hn, hf]
      rfl

namespace Sample

open scoped Platform

/-- A spelling of a standard rule is not taken over when a rule of a program's own is bound to it. -/
theorem not_forall_takesOver : ¬ ∀ calls : List RegistryCall, (after calls).TakesOver := by
  intro h
  have he : ("NumberNotEqual", .numberIsDifferentFrom) ∈ spellings := by decide
  have hspelled := (h [.register (.text "NumberNotEqual") (.callable "own" none)]).spelled _ he
  rw [find?_spelling_overwrite _ he] at hspelled
  have hown : (after [.register (.text "NumberNotEqual") (.callable "own" none)]).direct?
      "NumberNotEqual" = some (.callable "own" none) := rfl
  rw [hown] at hspelled
  cases hspelled

end Sample

end Registry
end Rulebook
