import Rulebook.Proofs.Key
import Rulebook.Proofs.Table
import Rulebook.Schema.Store

/-!
# What a class sees of a store

Three facts about lists by property: what is found after one is put (`Properties.lookup_put`), after
several are put (`Properties.lookup_putAll`), and that putting keeps the properties apart
(`Properties.IsMapping.put`).

A store is *sound* for a key (`Store.Sound`) when all that is stored under the key are mappings from
properties to lists.  What a class sees of a sound store can always be read (`merged_of_sound`), and
the list of a property is the one of the nearest class that stores one (`lookup_seen`).  An update
stores the lists of one class (`stored_set`) and changes the list of one property
(`lookup_changed`).
-/

set_option autoImplicit false

namespace Rulebook

/-! ## Lists by property -/

namespace Properties

variable {p q : Value} {l : List Value} {ps : Properties}

/-- What a mapping from properties to lists is like: the properties can be keys, and no two of them
are the same. -/
structure IsMapping (ps : Properties) : Prop where
  keys : ∀ e ∈ ps, e.1.isKey = true
  distinct : ps.Pairwise fun a b ↦ Value.sameKey a.1 b.1 = false

theorem IsMapping.nil : IsMapping [] := ⟨nofun, .nil⟩

theorem IsMapping.tail {e : Value × List Value} (h : IsMapping (e :: ps)) : IsMapping ps :=
  ⟨fun d hd ↦ h.keys d (List.mem_cons_of_mem e hd), (List.pairwise_cons.mp h.distinct).2⟩

/-- What is found after a list is put. -/
theorem lookup_put (hps : ∀ e ∈ ps, e.1.isKey = true) (hp : p.isKey = true) (hq : q.isKey = true) :
    (ps.put p l).lookup q = if Value.sameKey p q then some l else ps.lookup q := by
  induction ps with
  | nil => rfl
  | cons e r ih =>
    obtain ⟨k, m⟩ := e
    have hk : k.isKey = true := hps (k, m) List.mem_cons_self
    have ih := ih fun e he ↦ hps e (List.mem_cons_of_mem _ he)
    rw [put]
    split
    · rename_i hkp
      rw [lookup, lookup, Value.sameKey_congr hk hp hq hkp]
      split
      · rfl
      · rfl
    · rename_i hkp
      rw [lookup, lookup, ih]
      by_cases hkq : Value.sameKey k q = true
      · have hpq : Value.sameKey p q ≠ true := by
          intro hpq
          rw [Value.sameKey_comm hp hq] at hpq
          exact hkp (Value.sameKey_trans hk hq hp hkq hpq)
        rw [if_pos hkq, if_pos hkq, if_neg hpq]
      · rw [if_neg hkq, if_neg hkq]

theorem mem_put {e : Value × List Value} (he : e ∈ ps.put p l) :
    e.1 = p ∨ ∃ d ∈ ps, d.1 = e.1 := by
  induction ps with
  | nil => exact .inl (congrArg Prod.fst (List.mem_singleton.mp he))
  | cons d r ih =>
    obtain ⟨k, m⟩ := d
    rw [put] at he
    split at he
    · rcases List.mem_cons.mp he with rfl | he
      · exact .inr ⟨(k, m), List.mem_cons_self, rfl⟩
      · exact .inr ⟨e, List.mem_cons_of_mem _ he, rfl⟩
    · rcases List.mem_cons.mp he with rfl | he
      · exact .inr ⟨(k, m), List.mem_cons_self, rfl⟩
      · rcases ih he with h | ⟨d, hd, heq⟩
        · exact .inl h
        · exact .inr ⟨d, List.mem_cons_of_mem _ hd, heq⟩

/-- A mapping in which a list is put is one. -/
theorem IsMapping.put (h : IsMapping ps) (hp : p.isKey = true) : IsMapping (ps.put p l) := by
  refine ⟨fun e he ↦ ?_, ?_⟩
  · rcases mem_put he with heq | ⟨d, hd, heq⟩
    · exact heq ▸ hp
    · exact heq ▸ h.keys d hd
  · induction ps with
    | nil => exact List.pairwise_singleton _ _
    | cons d r ih =>
      obtain ⟨k, m⟩ := d
      obtain ⟨hfirst, hrest⟩ := List.pairwise_cons.mp h.distinct
      rw [Properties.put]
      split
      · exact List.pairwise_cons.mpr ⟨hfirst, hrest⟩
      · rename_i hkp
        refine List.pairwise_cons.mpr ⟨fun e he ↦ ?_, ih h.tail⟩
        rcases mem_put he with heq | ⟨d, hd, heq⟩
        · exact heq ▸ Bool.eq_false_iff.mpr hkp
        · exact heq ▸ hfirst d hd

theorem lookup_eq_none_iff : ps.lookup q = none ↔ ∀ e ∈ ps, Value.sameKey e.1 q = false := by
  induction ps with
  | nil => exact ⟨fun _ ↦ nofun, fun _ ↦ rfl⟩
  | cons e r ih =>
    obtain ⟨k, m⟩ := e
    rw [lookup, List.forall_mem_cons]
    split
    · rename_i h
      exact ⟨nofun, fun hno ↦ absurd h (Bool.eq_false_iff.mp hno.1)⟩
    · rename_i h
      rw [ih]
      exact ⟨fun hno ↦ ⟨Bool.eq_false_iff.mpr h, hno⟩, And.right⟩

/-- What is found first in a mapping is not found in the rest of it. -/
theorem IsMapping.lookup_tail {e : Value × List Value} (h : IsMapping (e :: ps))
    (hq : q.isKey = true) (heq : Value.sameKey e.1 q = true) : ps.lookup q = none := by
  rw [lookup_eq_none_iff]
  intro d hd
  have he : e.1.isKey = true := h.keys e List.mem_cons_self
  have hd' : d.1.isKey = true := h.keys d (List.mem_cons_of_mem e hd)
  rw [Value.sameKey_comm hd' hq, ← Value.sameKey_congr he hq hd' heq]
  exact (List.pairwise_cons.mp h.distinct).1 d hd

/-- Lists put one after another over others. -/
def putAll (ps acc : Properties) : Properties := ps.foldl (fun acc e ↦ acc.put e.1 e.2) acc

theorem IsMapping.putAll {acc : Properties} (hps : IsMapping ps) (hacc : IsMapping acc) :
    IsMapping (ps.putAll acc) := by
  induction ps generalizing acc with
  | nil => exact hacc
  | cons e r ih => exact ih hps.tail (hacc.put (hps.keys e List.mem_cons_self))

/-- What is found after the lists of a mapping are put: what the mapping has, or what was there. -/
theorem lookup_putAll {acc : Properties} (hps : IsMapping ps) (hacc : IsMapping acc)
    (hq : q.isKey = true) : (ps.putAll acc).lookup q = (ps.lookup q).or (acc.lookup q) := by
  induction ps generalizing acc with
  | nil => rfl
  | cons e r ih =>
    obtain ⟨k, m⟩ := e
    have hk : k.isKey = true := hps.keys (k, m) List.mem_cons_self
    rw [putAll, List.foldl_cons, ← putAll, ih hps.tail (hacc.put hk),
      lookup_put hacc.keys hk hq, lookup]
    split
    · rename_i hkq
      rw [hps.lookup_tail hq hkq]
      rfl
    · rfl

end Properties

/-! ## What is stored -/

namespace Store

variable {s : Store} {key : String} {c d : ClassRef}

theorem putValue_eq_putKey (key : String) (v : Value) (es : List (String × Value)) :
    putValue key v es = putKey key v es := by
  induction es with
  | nil => rfl
  | cons e r ih => rw [putValue, putKey, ih]

theorem lookup_putValue (es : List (String × Value)) (key key' : String) (v : Value) :
    (putValue key v es).lookup key' = if key' = key then some v else es.lookup key' := by
  rw [putValue_eq_putKey, lookup_putKey]

theorem entries_cons (b : ClassRef) (es : List (String × Value)) (s : Store) (d : ClassRef) :
    entries ((b, es) :: s) d = if d = b then es else s.entries d := by
  rw [entries, lookup_cons]
  split <;> rfl

/-- What is stored for a class after something is. -/
theorem entries_set (s : Store) (key : String) (c d : ClassRef) (v : Value) :
    (s.set key c v).entries d = if d = c then putValue key v (s.entries c) else s.entries d := by
  induction s with
  | nil =>
    rw [set, entries_cons]
    rfl
  | cons e r ih =>
    obtain ⟨b, es⟩ := e
    rw [set]
    split
    · rename_i hbc
      subst hbc
      rw [entries_cons, entries_cons, entries_cons, if_pos rfl]
      split <;> rfl
    · rename_i hbc
      rw [entries_cons, ih, entries_cons, entries_cons, if_neg (Ne.symm hbc)]
      by_cases hd : d = b
      · rw [if_pos hd, if_pos hd, if_neg (fun h ↦ hbc (hd ▸ h))]
      · rw [if_neg hd, if_neg hd]

/-- **What is stored under a key for a class after something is.** -/
theorem own?_set (s : Store) (key key' : String) (c d : ClassRef) (v : Value) :
    (s.set key c v).own? key' d = if key' = key ∧ d = c then some v else s.own? key' d := by
  rw [own?, entries_set]
  by_cases hd : d = c
  · rw [if_pos hd, lookup_putValue, hd]
    by_cases hk : key' = key <;> simp [hk, own?]
  · rw [if_neg hd, if_neg (fun h ↦ hd h.2), own?]

/-- The lists that are stored for a class itself. -/
def stored (s : Store) (key : String) (c : ClassRef) : Properties :=
  match s.own? key c with
  | some (.dict es) => es.map fun e ↦ (e.1, (e.2.items?).getD [])
  | _ => []

/-- All that is stored under a key are mappings from properties to lists. -/
def Sound (s : Store) (key : String) : Prop :=
  ∀ c v, s.own? key c = some v → ∃ ps : Properties, ps.IsMapping ∧ v = ps.toValue

theorem stored_eq_nil (h : s.own? key c = none) : s.stored key c = [] := by
  rw [stored, h]

theorem stored_eq {ps : Properties} (h : s.own? key c = some ps.toValue) :
    s.stored key c = ps := by
  rw [stored, h, Properties.toValue]
  exact (List.map_map ..).trans (List.map_id' ps)

theorem Sound.isMapping (hs : s.Sound key) (c : ClassRef) : (s.stored key c).IsMapping := by
  cases h : s.own? key c with
  | none => exact stored_eq_nil h ▸ .nil
  | some v =>
    obtain ⟨ps, hps, rfl⟩ := hs c v h
    exact stored_eq h ▸ hps

theorem sound_nil : Sound [] key := nofun

/-- A sound store stays sound when a mapping is stored. -/
theorem Sound.set (hs : s.Sound key) {ps : Properties} (hps : ps.IsMapping) :
    (s.set key c ps.toValue).Sound key := by
  intro d v h
  rw [own?_set] at h
  split at h
  · exact ⟨ps, hps, (Option.some.inj h).symm⟩
  · exact hs d v h

/-- What is stored under one key does not matter for another. -/
theorem own?_set_of_ne {key' : String} (h : key' ≠ key) (v : Value) :
    (s.set key c v).own? key' d = s.own? key' d := by
  rw [own?_set, if_neg fun hk ↦ h hk.1]

/-! ## What is seen -/

/-- What a class sees of a sound store: the lists of its ancestors, those of nearer ones put over
those of others. -/
def seen (s : Store) (key : String) (order : List ClassRef) : Properties :=
  order.foldr (fun c acc ↦ (s.stored key c).putAll acc) []

theorem mergeEntries_toValue (ps acc : Properties) :
    mergeEntries (ps.map fun e ↦ (e.1, .list e.2)) acc = .ok (ps.putAll acc) := by
  induction ps generalizing acc with
  | nil => rfl
  | cons e r ih => exact ih (acc.put e.1 e.2)

theorem mergeClass_of_sound (hs : s.Sound key) (acc : Properties) (c : ClassRef) :
    s.mergeClass key acc c = .ok ((s.stored key c).putAll acc) := by
  rw [mergeClass]
  cases h : s.own? key c with
  | none =>
    rw [stored_eq_nil h]
    rfl
  | some v =>
    obtain ⟨ps, -, rfl⟩ := hs c v h
    rw [stored_eq h]
    cases ps with
    | nil => rfl
    | cons e r => exact mergeEntries_toValue (e :: r) acc

theorem foldlM_mergeClass (hs : s.Sound key) (order : List ClassRef) (acc : Properties) :
    order.foldlM (s.mergeClass key) acc =
      .ok (order.foldl (fun acc c ↦ (s.stored key c).putAll acc) acc) := by
  induction order generalizing acc with
  | nil => rfl
  | cons c r ih =>
    rw [List.foldlM_cons, mergeClass_of_sound hs]
    exact ih _

/-- What a class sees of a sound store can be read. -/
theorem merged_of_sound (hs : s.Sound key) (order : List ClassRef) :
    s.merged key order = .ok (s.seen key order) := by
  rw [merged, foldlM_mergeClass hs, List.foldl_reverse, seen]

theorem isMapping_seen (hs : s.Sound key) (order : List ClassRef) :
    (s.seen key order).IsMapping := by
  induction order with
  | nil => exact .nil
  | cons c r ih => exact (hs.isMapping c).putAll ih

/-- **The list of a property is the one of the nearest class that stores one.** -/
theorem lookup_seen (hs : s.Sound key) (order : List ClassRef) {q : Value} (hq : q.isKey = true) :
    (s.seen key order).lookup q = order.findSome? fun c ↦ (s.stored key c).lookup q := by
  induction order with
  | nil => rfl
  | cons c r ih =>
    rw [seen, List.foldr_cons, ← seen,
      Properties.lookup_putAll (hs.isMapping c) (isMapping_seen hs r) hq, ih, List.findSome?_cons]
    cases (s.stored key c).lookup q <;> rfl

/-! ## Updates -/

section Update

variable {order : List ClassRef} {p : Value} {change : List Value → List Value}

/-- The lists of a class after the one of a property is changed. -/
def changed (s : Store) (key : String) (order : List ClassRef) (p : Value)
    (change : List Value → List Value) : Properties :=
  (s.seen key order).put p (change (((s.seen key order).lookup p).getD []))

theorem update_of_sound (hs : s.Sound key) :
    s.update key order c p change =
      .ok (s.changed key order p change, s.set key c (s.changed key order p change).toValue) := by
  rw [update, merged_of_sound hs]
  rfl

theorem isMapping_changed (hs : s.Sound key) (hp : p.isKey = true) :
    (s.changed key order p change).IsMapping :=
  (isMapping_seen hs order).put hp

/-- An update stores lists for one class, and what the others store stays. -/
theorem stored_set {ps : Properties} :
    (s.set key c ps.toValue).stored key d = if d = c then ps else s.stored key d := by
  by_cases h : d = c
  · rw [if_pos h]
    exact stored_eq (by rw [own?_set, if_pos ⟨rfl, h⟩])
  · rw [if_neg h, stored, stored, own?_set, if_neg fun hk ↦ h hk.2]

/-- An update changes the list of one property. -/
theorem lookup_changed (hs : s.Sound key) (hp : p.isKey = true) {q : Value} (hq : q.isKey = true) :
    (s.changed key order p change).lookup q =
      if Value.sameKey p q then some (change (((s.seen key order).lookup p).getD []))
      else (s.seen key order).lookup q :=
  Properties.lookup_put (isMapping_seen hs order).keys hp hq

end Update

end Store
end Rulebook
