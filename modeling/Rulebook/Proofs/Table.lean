import Rulebook.Registry
import Mathlib.Data.List.Nodup

/-!
# Tables by name

What is found in a list of values by name after one value is put (`lookup_putKey`) and after a whole
list is put over another one (`lookup_putKeys`).  Putting values keeps a table one in which no name
stands twice (`nodup_putKey`, `nodup_putKeys`).
-/

set_option autoImplicit false

namespace Rulebook

variable {α : Type} {key k : String} {v : α} {es acc : List (String × α)}

theorem lookup_cons {κ β : Type} [DecidableEq κ] (k a : κ) (b : β) (r : List (κ × β)) :
    List.lookup k ((a, b) :: r) = if k = a then some b else r.lookup k := by
  rw [List.lookup_cons]
  by_cases h : k = a
  · rw [if_pos h, beq_iff_eq.mpr h]
  · rw [if_neg h, beq_false_of_ne h]

/-! ## Putting one value -/

theorem lookup_putKey (key k : String) (v : α) (es : List (String × α)) :
    (putKey key v es).lookup k = if k = key then some v else es.lookup k := by
  induction es with
  | nil => rw [putKey, lookup_cons]
  | cons e r ih =>
    obtain ⟨l, w⟩ := e
    rw [putKey]
    split
    · rename_i hl
      rw [lookup_cons, lookup_cons, hl]
      split <;> rfl
    · rename_i hl
      rw [lookup_cons, lookup_cons, ih]
      by_cases h : k = l
      · rw [if_pos h, if_pos h, if_neg fun heq ↦ hl (h ▸ heq)]
      · rw [if_neg h, if_neg h]

theorem mem_map_fst_putKey :
    k ∈ (putKey key v es).map Prod.fst ↔ k = key ∨ k ∈ es.map Prod.fst := by
  induction es with
  | nil => simp [putKey]
  | cons e r ih =>
    obtain ⟨l, w⟩ := e
    rw [putKey]
    split
    · rename_i hl
      simp [hl]
    · rw [List.map_cons, List.mem_cons, ih, List.map_cons, List.mem_cons, or_left_comm]

theorem nodup_putKey (h : (es.map Prod.fst).Nodup) : ((putKey key v es).map Prod.fst).Nodup := by
  induction es with
  | nil => exact List.nodup_singleton key
  | cons e r ih =>
    obtain ⟨l, w⟩ := e
    rw [List.map_cons, List.nodup_cons] at h
    rw [putKey]
    split
    · rw [List.map_cons, List.nodup_cons]
      exact h
    · rename_i hl
      rw [List.map_cons, List.nodup_cons, mem_map_fst_putKey, not_or]
      exact ⟨⟨hl, h.1⟩, ih h.2⟩

/-! ## Names that are there -/

theorem isSome_lookup_iff : (es.lookup k).isSome = true ↔ k ∈ es.map Prod.fst := by
  rw [List.lookup_isSome_iff, List.mem_map]
  constructor
  · rintro ⟨e, he, hk⟩
    exact ⟨e, he, (eq_of_beq hk).symm⟩
  · rintro ⟨e, he, rfl⟩
    exact ⟨e, he, beq_self_eq_true e.1⟩

theorem lookup_eq_none_of_notMem (h : k ∉ es.map Prod.fst) : es.lookup k = none := by
  rw [← Option.not_isSome_iff_eq_none, isSome_lookup_iff]
  exact h

/-! ## Putting many values -/

/-- A table put over another one, one value after another. -/
def putKeys (es acc : List (String × α)) : List (String × α) :=
  es.foldl (fun acc e ↦ putKey e.1 e.2 acc) acc

theorem nodup_putKeys (h : (acc.map Prod.fst).Nodup) : ((putKeys es acc).map Prod.fst).Nodup := by
  induction es generalizing acc with
  | nil => exact h
  | cons e r ih => exact ih (nodup_putKey h)

theorem lookup_putKeys (h : (es.map Prod.fst).Nodup) :
    (putKeys es acc).lookup k = (es.lookup k).or (acc.lookup k) := by
  induction es generalizing acc with
  | nil => rfl
  | cons e r ih =>
    obtain ⟨l, w⟩ := e
    rw [List.map_cons, List.nodup_cons] at h
    rw [putKeys, List.foldl_cons, ← putKeys, ih h.2, lookup_putKey, lookup_cons]
    by_cases hk : k = l
    · rw [hk, lookup_eq_none_of_notMem h.1, if_pos rfl, if_pos rfl]
      rfl
    · rw [if_neg hk, if_neg hk]

end Rulebook
