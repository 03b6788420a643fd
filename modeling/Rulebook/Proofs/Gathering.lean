import Rulebook.Proofs.Store
import Mathlib.Data.List.Basic
import Mathlib.Data.List.Induction

/-!
# Lists gathered from annotations

Annotations of properties, made one after another, gather into lists by property
(`Properties.gather`): the list of a property holds what was attached to it, in order
(`lookup_gather`), and the properties come in the order in which they were first annotated
(`map_fst_gather`).

To put lists that were gathered later over those gathered up to some point gives the later ones
(`putAll_gather`).  It is why a class may store everything that it saw when it was annotated last:
read again together with what its ancestors store, it is still the same.

A property is named by a key that is the same as itself (`Properties.IsName`).  A not-a-number is
not, and every annotation of it would be one of a new property.
-/

set_option autoImplicit false

namespace Rulebook

/-- Specifications attached to a property of a class. -/
structure Annotation where
  cls : ClassRef
  property : Value
  specs : List Value

namespace Properties

variable {p q : Value} {l : List Value} {ps acc : Properties} {log later : List Annotation}

/-! ## Putting lists -/

/-- What can be the name of a property. -/
structure IsName (p : Value) : Prop where
  isKey : p.isKey = true
  same : Value.sameKey p p = true

theorem isName_text (s : String) : IsName (.text s) :=
  ⟨rfl, (Value.sameKey_text_iff (.text s) s).mpr rfl⟩

/-- What is the same key has the same list. -/
theorem lookup_congr (hps : ∀ e ∈ ps, e.1.isKey = true) (hp : p.isKey = true)
    (hq : q.isKey = true) (h : Value.sameKey p q = true) : ps.lookup p = ps.lookup q := by
  induction ps with
  | nil => rfl
  | cons e r ih =>
    obtain ⟨k, m⟩ := e
    obtain ⟨hk, hr⟩ := List.forall_mem_cons.mp hps
    have hkey : Value.sameKey k p = Value.sameKey k q := by
      rw [Value.sameKey_comm hk hp, Value.sameKey_congr hp hq hk h, Value.sameKey_comm hq hk]
    rw [lookup, lookup, hkey, ih hr]

/-- A property that is put keeps its place, and a new one comes last. -/
theorem map_fst_put : (ps.put p l).map Prod.fst =
    if (ps.map Prod.fst).any (fun x ↦ Value.sameKey x p) then ps.map Prod.fst
    else ps.map Prod.fst ++ [p] := by
  induction ps with
  | nil => rfl
  | cons e r ih =>
    obtain ⟨k, m⟩ := e
    rw [put, List.map_cons, List.any_cons]
    by_cases hk : Value.sameKey k p = true
    · rw [if_pos hk, hk, Bool.true_or, if_pos rfl, List.map_cons]
    · rw [if_neg hk, Bool.eq_false_iff.mpr hk, Bool.false_or, List.map_cons, ih]
      split <;> rfl

theorem put_append (h : ∀ e ∈ acc, Value.sameKey e.1 p = false) :
    (acc ++ ps).put p l = acc ++ ps.put p l := by
  induction acc with
  | nil => rfl
  | cons e r ih =>
    obtain ⟨k, m⟩ := e
    obtain ⟨hk, hr⟩ := List.forall_mem_cons.mp h
    rw [List.cons_append, put, if_neg (Bool.eq_false_iff.mp hk), ih hr, List.cons_append]

/-- Lists put over others whose properties are the first ones of theirs. -/
theorem putAll_append {rest : Properties} (hps : IsMapping (acc ++ ps))
    (hsame : ∀ e ∈ ps, Value.sameKey e.1 e.1 = true)
    (hrest : rest.map Prod.fst <+: ps.map Prod.fst) : ps.putAll (acc ++ rest) = acc ++ ps := by
  induction ps generalizing acc rest with
  | nil =>
    obtain rfl := List.map_eq_nil_iff.mp (List.prefix_nil.mp hrest)
    rfl
  | cons e ps ih =>
    obtain ⟨k, m⟩ := e
    obtain ⟨hk, hsame⟩ := List.forall_mem_cons.mp hsame
    have hnew : ∀ e ∈ acc, Value.sameKey e.1 k = false := fun e he ↦
      (List.pairwise_append.mp hps.distinct).2.2 e he (k, m) List.mem_cons_self
    have hps : IsMapping ((acc ++ [(k, m)]) ++ ps) := by
      rwa [List.append_assoc, List.singleton_append]
    have hstep : (acc ++ rest).put k m = (acc ++ [(k, m)]) ++ rest.tail := by
      rw [put_append hnew, List.append_assoc]
      cases rest with
      | nil => rfl
      | cons d rest =>
        obtain ⟨j, x⟩ := d
        obtain ⟨rfl, -⟩ := List.cons_prefix_cons.mp hrest
        rw [put, if_pos hk]
        rfl
    have htail : rest.tail.map Prod.fst <+: ps.map Prod.fst := by
      cases rest with
      | nil => exact List.nil_prefix
      | cons d rest => exact (List.cons_prefix_cons.mp hrest).2
    rw [putAll, List.foldl_cons, ← putAll, hstep, ih hps hsame htail, List.append_assoc]
    rfl

/-! ## Gathering -/

/-- The lists by property that annotations gather into. -/
def gather (log : List Annotation) : Properties :=
  log.foldl (fun ps a ↦ ps.put a.property ((ps.lookup a.property).getD [] ++ a.specs)) []

theorem gather_concat (log : List Annotation) (a : Annotation) : gather (log ++ [a]) =
    (gather log).put a.property (((gather log).lookup a.property).getD [] ++ a.specs) := by
  rw [gather, List.foldl_concat, ← gather]

theorem isMapping_gather (h : ∀ a ∈ log, IsName a.property) : IsMapping (gather log) := by
  induction log using List.reverseRecOn with
  | nil => exact .nil
  | append_singleton log a ih =>
    obtain ⟨hlog, ha⟩ := List.forall_mem_append.mp h
    rw [gather_concat]
    exact (ih hlog).put (ha a List.mem_cons_self).isKey

/-- Only what was annotated has a list. -/
theorem isName_of_mem_gather (h : ∀ a ∈ log, IsName a.property) :
    ∀ e ∈ gather log, IsName e.1 := by
  induction log using List.reverseRecOn with
  | nil => exact nofun
  | append_singleton log a ih =>
    obtain ⟨hlog, ha⟩ := List.forall_mem_append.mp h
    intro e he
    rw [gather_concat] at he
    rcases mem_put he with heq | ⟨d, hd, heq⟩
    · exact heq ▸ ha a List.mem_cons_self
    · exact heq ▸ ih hlog d hd

/-- **The list of a property holds what was attached to it**, in order, and there is none when nothing
was. -/
theorem lookup_gather (h : ∀ a ∈ log, IsName a.property) (hq : q.isKey = true) :
    (gather log).lookup q =
      if log.any (fun a ↦ Value.sameKey a.property q) then
        some ((log.filter fun a ↦ Value.sameKey a.property q).flatMap Annotation.specs)
      else none := by
  induction log using List.reverseRecOn with
  | nil => rfl
  | append_singleton log a ih =>
    obtain ⟨hlog, ha⟩ := List.forall_mem_append.mp h
    have hmapping := isMapping_gather hlog
    have hkey := (ha a List.mem_cons_self).isKey
    rw [gather_concat, lookup_put hmapping.keys hkey hq, List.any_append, List.filter_append,
      List.flatMap_append]
    by_cases haq : Value.sameKey a.property q = true
    · rw [if_pos haq, lookup_congr hmapping.keys hkey hq haq, ih hlog]
      by_cases hany : log.any (fun a ↦ Value.sameKey a.property q) = true
      · simp [hany, haq]
      · have hnone : log.filter (fun a ↦ Value.sameKey a.property q) = [] := by
          simpa [List.filter_eq_nil_iff] using hany
        simp [hany, haq, hnone]
    · rw [if_neg haq, ih hlog]
      simp [haq]

theorem lookup_gather_eq_none_iff (h : ∀ a ∈ log, IsName a.property) (hq : q.isKey = true) :
    (gather log).lookup q = none ↔ ∀ a ∈ log, Value.sameKey a.property q = false := by
  rw [lookup_gather h hq]
  simp

theorem getD_lookup_gather (h : ∀ a ∈ log, IsName a.property) (hq : q.isKey = true) :
    ((gather log).lookup q).getD [] =
      (log.filter fun a ↦ Value.sameKey a.property q).flatMap Annotation.specs := by
  rw [lookup_gather h hq]
  split
  · rfl
  · rename_i hany
    have hnone : log.filter (fun a ↦ Value.sameKey a.property q) = [] := by
      simpa [List.filter_eq_nil_iff] using hany
    rw [hnone]
    rfl

theorem distinct_concat (vs : List Value) (v : Value) : Value.distinct (vs ++ [v]) =
    if (Value.distinct vs).any (fun x ↦ Value.sameKey x v) then Value.distinct vs
    else Value.distinct vs ++ [v] :=
  List.foldl_concat ..

/-- The properties come in the order in which they were first annotated. -/
theorem map_fst_gather (log : List Annotation) :
    (gather log).map Prod.fst = Value.distinct (log.map Annotation.property) := by
  induction log using List.reverseRecOn with
  | nil => rfl
  | append_singleton log a ih =>
    rw [gather_concat, map_fst_put, ih, List.map_append, List.map_singleton, distinct_concat]

theorem map_fst_gather_append (log later : List Annotation) :
    (gather log).map Prod.fst <+: (gather (log ++ later)).map Prod.fst := by
  induction later using List.reverseRecOn with
  | nil => exact (List.append_nil log).symm ▸ List.prefix_rfl
  | append_singleton later a ih =>
    refine ih.trans ?_
    rw [← List.append_assoc, gather_concat, map_fst_put]
    split
    · exact List.prefix_rfl
    · exact List.prefix_append _ _

/-- **What is gathered later, put over what was gathered before, is what is gathered later.** -/
theorem putAll_gather (h : ∀ a ∈ log ++ later, IsName a.property) :
    (gather (log ++ later)).putAll (gather log) = gather (log ++ later) := by
  show (gather (log ++ later)).putAll ([] ++ gather log) = [] ++ gather (log ++ later)
  exact putAll_append (isMapping_gather h) (fun e he ↦ (isName_of_mem_gather h e he).same)
    (map_fst_gather_append log later)

end Properties
end Rulebook
