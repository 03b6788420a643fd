import Rulebook.Proofs.Overlay

/-!
# Catalogs laid over each other

What laying a catalog over the one of a locale makes of every entry, at every depth.

Both catalogs are looked at along one path of keys.  Where the new catalog has an entry, that entry
is laid over what was there before (`Catalog.find?_overlayValue_of_some`); where it has none, the
reason is that it has something else than a mapping further up, which hides the old entries, or that a
mapping of it has no such key, which leaves them alone (`Catalog.find?_overlayValue_of_none`).
`Catalog.Overlaid` says what this comes to, case by case.

Laying a catalog over the result once more changes nothing (`Catalog.overlayValue_idem`).  For this
the keys of its mappings have to be the same as themselves (`Value.IsRegularKey`): a not-a-number is
the same as nothing, and every time it is read it is another key.
-/

set_option autoImplicit false

namespace Rulebook
namespace Value

variable {a b k l q v w : Value} {es base : List Entry} {xs ys : List Value}

/-! ## Keys -/

theorem isKey_of_isNumeric (h : a.isNumeric = true) (hs : a.isSignalling = false) :
    a.isKey = true := by
  cases a with
  | decimal d => rwa [isKey, Bool.not_eq_true']
  | _ => first | rfl | cases h

theorem isKey_of_isSameCallable (h : isSameCallable a b = true) : a.isKey = true := by
  rw [isSameCallable.eq_def] at h
  split at h
  · rfl
  · rfl
  · rfl
  · cases h

mutual

/-- Only a key is equal to a key. -/
theorem isKey_of_equals (a b : Value) (hb : b.isKey = true) (h : equals a b = .ok true) :
    a.isKey = true := by
  rw [equals.eq_def] at h
  split at h
  · rfl
  · rfl
  · rfl
  · rfl
  · cases hb
  · rename_i xs ys
    exact areKeys_of_equalItems xs ys hb h
  · cases hb
  · cases hb
  · split at h
    · rename_i hnumeric
      rw [equalNumbers] at h
      split at h
      · cases h
      · rename_i hsignalling
        refine isKey_of_isNumeric (Bool.and_eq_true_iff.mp hnumeric).1 ?_
        simp_all
    · exact isKey_of_isSameCallable (Except.ok.inj h)
termination_by sizeOf a

theorem areKeys_of_equalItems (xs ys : List Value) (hy : areKeys ys = true)
    (h : equalItems xs ys = .ok true) : areKeys xs = true := by
  match xs, ys with
  | [], _ => rfl
  | _ :: _, [] =>
    rw [equalItems.eq_def] at h
    cases h
  | x :: xs, y :: ys =>
    rw [areKeys, Bool.and_eq_true] at hy ⊢
    rw [equalItems] at h
    obtain ⟨same, hsame, h⟩ := bind_eq_ok h
    cases same with
    | false => cases h
    | true => exact ⟨isKey_of_equals x y hy.1 hsame, areKeys_of_equalItems xs ys hy.2 h⟩
termination_by sizeOf xs

end

theorem isKey_of_sameKey (hb : b.isKey = true) (h : sameKey a b = true) : a.isKey = true := by
  rw [sameKey] at h
  split at h
  · rename_i same hsame
    exact isKey_of_equals a b hb (h ▸ hsame)
  · cases h

/-! ## Putting values -/

/-- What is put is found. -/
theorem lookup_insert_self (hk : sameKey k k = true) (v : Value) (es : List Entry) :
    lookup k (insert k v es) = some v := by
  induction es with
  | nil => rw [insert, lookup, if_pos hk]
  | cons e r ih =>
    obtain ⟨l, w⟩ := e
    rw [insert]
    split
    · rename_i hl
      rw [lookup, if_pos hl]
    · rename_i hl
      rw [lookup, if_neg hl, ih]

/-- What is put under another key changes nothing. -/
theorem lookup_insert_of_ne (hk : k.isKey = true) (hq : q.isKey = true)
    (hne : sameKey k q = false) (v : Value) (es : List Entry) :
    lookup q (insert k v es) = lookup q es := by
  induction es with
  | nil => simp [insert, lookup, hne]
  | cons e r ih =>
    obtain ⟨l, w⟩ := e
    rw [insert]
    split
    · rename_i hl
      have hlq : sameKey l q = false := by
        rw [sameKey_congr (isKey_of_sameKey hk hl) hk hq hl, hne]
      rw [lookup, lookup, hlq]
      rfl
    · rw [lookup, lookup, ih]

/-- To put again what is there changes nothing. -/
theorem insert_of_lookup (h : lookup k es = some v) : insert k v es = es := by
  induction es with
  | nil => cases h
  | cons e r ih =>
    obtain ⟨l, w⟩ := e
    rw [lookup] at h
    rw [insert]
    split at h
    · rename_i hl
      rw [if_pos hl, Option.some.inj h]
    · rename_i hl
      rw [if_neg hl, ih h]

theorem lookup_of_forall_ne (h : ∀ e ∈ es, sameKey e.1 k = false) : lookup k es = none := by
  induction es with
  | nil => rfl
  | cons e r ih =>
    obtain ⟨l, w⟩ := e
    obtain ⟨hl, hr⟩ := List.forall_mem_cons.mp h
    rw [lookup, if_neg (Bool.eq_false_iff.mp hl), ih hr]

/-- A new key comes last. -/
theorem insert_of_forall_ne (h : ∀ e ∈ es, sameKey e.1 k = false) (v : Value) :
    insert k v es = es ++ [(k, v)] := by
  induction es with
  | nil => rfl
  | cons e r ih =>
    obtain ⟨l, w⟩ := e
    obtain ⟨hl, hr⟩ := List.forall_mem_cons.mp h
    rw [insert, if_neg (Bool.eq_false_iff.mp hl), ih hr, List.cons_append]

/-! ## Keys at every depth -/

/-- A value in which no mapping has a key twice and all keys of mappings are of some kind. -/
inductive Keyed (P : Value → Prop) : Value → Prop
  | leaf {v : Value} (h : v.entries? = none) : Keyed P v
  | dict {es : List Entry} (keys : ∀ e ∈ es, P e.1) (distinct : Distinct es)
      (values : ∀ e ∈ es, Keyed P e.2) : Keyed P (.dict es)

/-- A key that is the same as itself. -/
structure IsRegularKey (k : Value) : Prop where
  isKey : k.isKey = true
  same : sameKey k k = true

theorem isRegularKey_text (s : String) : IsRegularKey (.text s) :=
  ⟨rfl, (sameKey_text_iff (.text s) s).mpr rfl⟩

theorem Keyed.mono {P Q : Value → Prop} (h : v.Keyed P) (hPQ : ∀ k, P k → Q k) : v.Keyed Q := by
  induction h with
  | leaf h => exact .leaf h
  | dict keys distinct _ ih => exact .dict (fun e he ↦ hPQ e.1 (keys e he)) distinct ih

/-- A mapping from texts that are all different. -/
theorem keyed_of_texts (ts : List (String × Value)) (hkeys : (ts.map Prod.fst).Nodup)
    (hvalues : ∀ t ∈ ts, t.2.Keyed IsRegularKey) :
    Keyed IsRegularKey (.dict (ts.map fun t ↦ (.text t.1, t.2))) := by
  refine .dict ?_ ?_ ?_
  · rw [List.forall_mem_map]
    exact fun t _ ↦ isRegularKey_text t.1
  · rw [Distinct, List.pairwise_map]
    refine (List.pairwise_map.mp hkeys).imp fun {s t} hne ↦ Bool.eq_false_iff.mpr fun hsame ↦ hne ?_
    exact Value.text.inj ((sameKey_text_iff (.text s.1) t.1).mp hsame)
  · rw [List.forall_mem_map]
    exact hvalues

end Value

namespace Catalog

open Value (Distinct IsRegularKey)

variable {P : Value → Prop} {base es : List Entry} {o : Option Value} {v w : Value}
  {path above below : List String}

/-! ## Laying over -/

theorem overlayValue_of_leaf (h : v.entries? = none) (o : Option Value) : overlayValue o v = v := by
  cases v with
  | dict es => cases h
  | _ => rw [overlayValue]; nofun

/-- What was put before stays when no later key is the same. -/
theorem lookup_overlay_of_forall_ne {k : Value} (hk : k.isKey = true)
    (hkeys : ∀ e ∈ es, e.1.isKey = true) (h : ∀ e ∈ es, Value.sameKey e.1 k = false) :
    Value.lookup k (overlay base es) = Value.lookup k base := by
  induction es generalizing base with
  | nil => rw [overlay]
  | cons e r ih =>
    obtain ⟨l, w⟩ := e
    obtain ⟨hl, hr⟩ := List.forall_mem_cons.mp h
    obtain ⟨hkl, hkr⟩ := List.forall_mem_cons.mp hkeys
    rw [overlay, ih hkr hr, Value.lookup_insert_of_ne hkl hk hl]

/-- Every entry of the new catalog has been laid over the one of its key. -/
theorem lookup_overlay_of_mem (hkeys : ∀ e ∈ es, IsRegularKey e.1)
    (hdistinct : Distinct es) {e : Entry} (he : e ∈ es) (base : Catalog) :
    Value.lookup e.1 (overlay base es) = some (overlayValue (Value.lookup e.1 base) e.2) := by
  induction es generalizing base with
  | nil => cases he
  | cons d r ih =>
    obtain ⟨k, v⟩ := d
    obtain ⟨hk, hr⟩ := List.forall_mem_cons.mp hkeys
    obtain ⟨hfirst, hrest⟩ := List.pairwise_cons.mp hdistinct
    rw [overlay]
    rcases List.mem_cons.mp he with rfl | he
    · have hlater : ∀ e ∈ r, Value.sameKey e.1 k = false := by
        intro e he
        rw [Value.sameKey_comm (hr e he).isKey hk.isKey]
        exact hfirst e he
      rw [lookup_overlay_of_forall_ne hk.isKey (fun e he ↦ (hr e he).isKey) hlater,
        Value.lookup_insert_self hk.same]
    · rw [ih hr hrest he, Value.lookup_insert_of_ne hk.isKey (hr e he).isKey (hfirst e he)]

/-- Laying over changes nothing when every entry is there already. -/
theorem overlay_eq_self (h : ∀ e ∈ es, ∃ w, Value.lookup e.1 base = some w ∧
    overlayValue (some w) e.2 = w) : overlay base es = base := by
  induction es with
  | nil => rw [overlay]
  | cons e r ih =>
    obtain ⟨k, v⟩ := e
    obtain ⟨⟨w, hw, hself⟩, hr⟩ := List.forall_mem_cons.mp h
    rw [overlay, hw, hself, Value.insert_of_lookup hw, ih hr]

/-- **Laying over once more changes nothing.** -/
theorem overlayValue_idem (h : v.Keyed IsRegularKey) (o : Option Value) :
    overlayValue (some (overlayValue o v)) v = overlayValue o v := by
  induction h generalizing o with
  | leaf h => rw [overlayValue_of_leaf h, overlayValue_of_leaf h]
  | @dict es keys distinct _ ih =>
    rw [overlayValue, overlayValue, entriesOf, overlay_eq_self]
    intro e he
    exact ⟨_, lookup_overlay_of_mem keys distinct he _, ih e he _⟩

/-- What is laid over nothing is what it was. -/
theorem overlayValue_of_entriesOf_eq_nil (h : v.Keyed P) (ho : entriesOf o = []) :
    overlayValue o v = v := by
  induction h generalizing o with
  | leaf h => exact overlayValue_of_leaf h o
  | @dict es keys distinct _ ih =>
    -- Every entry is put behind those before it, since no two keys are the same.
    have happend : ∀ before after, es = before ++ after → overlay before after = es := by
      intro before after
      induction after generalizing before with
      | nil =>
        rintro rfl
        rw [overlay, List.append_nil]
      | cons e r ihr =>
        intro heq
        obtain ⟨k, v⟩ := e
        have hnew : ∀ e ∈ before, Value.sameKey e.1 k = false := by
          rw [heq] at distinct
          intro e he
          exact (List.pairwise_append.mp distinct).2.2 e he (k, v) List.mem_cons_self
        have hv : overlayValue none v = v := by
          refine ih (k, v) ?_ rfl
          rw [heq]
          simp
        rw [overlay, Value.lookup_of_forall_ne hnew, hv, Value.insert_of_forall_ne hnew, ihr]
        rw [heq, List.append_assoc, List.singleton_append]
    rw [overlayValue, ho, happend [] es rfl]

/-! ## Entries at a path -/

theorem find?_append (above below : List String) (v : Value) :
    find? (above ++ below) v = (find? above v).bind (find? below) := by
  induction above generalizing v with
  | nil => rfl
  | cons p r ih =>
    cases v with
    | dict es =>
      rw [List.cons_append, find?, find?, Option.bind_assoc]
      exact congrArg _ (funext ih)
    | _ => rfl

theorem find?_of_leaf (h : v.entries? = none) (hpath : path ≠ []) : find? path v = none := by
  cases path with
  | nil => exact (hpath rfl).elim
  | cons p r =>
    cases v with
    | dict es => cases h
    | _ => rfl

/-- What is below an entry is found in the mapping that the entry is. -/
theorem bind_find?_cons (o : Option Value) (p : String) (r : List String) :
    o.bind (find? (p :: r)) = (Value.lookup (.text p) (entriesOf o)).bind (find? r) := by
  cases o with
  | none => rfl
  | some v => cases v <;> rfl

/-- A path along which nothing is found leaves the entries at one of its keys. -/
theorem exists_of_find?_eq_none (h : find? path v = none) :
    ∃ above p rest u, path = above ++ p :: rest ∧ find? above v = some u ∧ find? [p] u = none := by
  induction path generalizing v with
  | nil => cases h
  | cons p r ih =>
    cases hp : find? [p] v with
    | none => exact ⟨[], p, r, v, rfl, rfl, hp⟩
    | some w =>
      rw [← List.singleton_append, find?_append, hp] at h
      obtain ⟨above, q, rest, u, rfl, hu, hq⟩ := ih h
      refine ⟨p :: above, q, rest, u, rfl, ?_, hq⟩
      rw [← List.singleton_append, find?_append, hp]
      exact hu

theorem keyed_of_lookup {k : Value} (h : ∀ e ∈ es, e.2.Keyed P)
    (hv : Value.lookup k es = some v) : v.Keyed P := by
  induction es with
  | nil => cases hv
  | cons e r ih =>
    obtain ⟨hfirst, hrest⟩ := List.forall_mem_cons.mp h
    rw [Value.lookup] at hv
    split at hv
    · exact Option.some.inj hv ▸ hfirst
    · exact ih hrest hv

theorem keyed_of_find? (h : v.Keyed P) (hw : find? path v = some w) : w.Keyed P := by
  induction path generalizing v with
  | nil => exact Option.some.inj hw ▸ h
  | cons p r ih =>
    cases h with
    | leaf hleaf => rw [find?_of_leaf hleaf (List.cons_ne_nil p r)] at hw; cases hw
    | dict keys distinct values =>
      rw [find?] at hw
      obtain ⟨u, hu, hw⟩ := Option.bind_eq_some_iff.mp hw
      exact ih (keyed_of_lookup values hu) hw

/-- **Where the new catalog has an entry**, that entry is laid over the old one. -/
theorem find?_overlayValue_of_some (h : v.Keyed P) (hw : find? path v = some w)
    (o : Option Value) :
    find? path (overlayValue o v) = some (overlayValue (o.bind (find? path)) w) := by
  induction path generalizing o v with
  | nil =>
    obtain rfl := Option.some.inj hw
    cases o <;> rfl
  | cons p r ih =>
    cases h with
    | leaf hleaf => rw [find?_of_leaf hleaf (List.cons_ne_nil p r)] at hw; cases hw
    | dict keys distinct values =>
      rw [find?] at hw
      obtain ⟨u, hu, hw⟩ := Option.bind_eq_some_iff.mp hw
      rw [overlayValue, find?, lookup_overlay distinct, hu, bind_find?_cons]
      exact ih (keyed_of_lookup values hu) hw _

/-- Whether there is an entry strictly above a path that is no mapping. -/
def HasLeafAbove (entry : List String → Option Value) (path : List String) : Prop :=
  ∃ above below v, path = above ++ below ∧ below ≠ [] ∧ entry above = some v ∧ v.entries? = none

theorem find?_of_hasLeafAbove (h : HasLeafAbove (find? · v) path) : find? path v = none := by
  obtain ⟨above, below, u, rfl, hbelow, hu, hleaf⟩ := h
  show find? (above ++ below) v = none
  have hu : find? above v = some u := hu
  rw [find?_append, hu, Option.bind_some, find?_of_leaf hleaf hbelow]

theorem find?_overlayValue_of_hasLeafAbove (h : v.Keyed P)
    (habove : HasLeafAbove (find? · v) path) (o : Option Value) :
    find? path (overlayValue o v) = none := by
  obtain ⟨above, below, w, rfl, hbelow, hw, hleaf⟩ := habove
  refine find?_of_hasLeafAbove ⟨above, below, w, rfl, hbelow, ?_, hleaf⟩
  exact (find?_overlayValue_of_some h hw o).trans (by rw [overlayValue_of_leaf hleaf])

/-- **Where the new catalog has no entry**, the old one stays, unless something that is no mapping
hides it. -/
theorem find?_overlayValue_of_none (h : v.Keyed P) (hv : find? path v = none)
    (habove : ¬ HasLeafAbove (find? · v) path) (o : Option Value) :
    find? path (overlayValue o v) = o.bind (find? path) := by
  obtain ⟨above, p, rest, u, rfl, hu, hp⟩ := exists_of_find?_eq_none hv
  have hold : o.bind (find? (above ++ p :: rest)) =
      (o.bind (find? above)).bind (find? (p :: rest)) := by
    rw [Option.bind_assoc]
    exact congrArg _ (funext (find?_append above (p :: rest)))
  cases keyed_of_find? h hu with
  | leaf hleaf =>
    exact (habove ⟨above, p :: rest, u, rfl, List.cons_ne_nil p rest, hu, hleaf⟩).elim
  | @dict es keys distinct values =>
    have hnone : Value.lookup (.text p) es = none := by
      cases hlookup : Value.lookup (.text p) es with
      | none => rfl
      | some x =>
        rw [find?, hlookup] at hp
        cases hp
    rw [find?_append, find?_overlayValue_of_some h hu, Option.bind_some, overlayValue, find?,
      lookup_overlay distinct, hnone, hold, bind_find?_cons]
    rfl

/-! ## Entries case by case -/

/-- What becomes of the entry at a path when a new catalog is laid over an old one. -/
structure Overlaid (old new after : List String → Option Value) (path : List String) : Prop where
  /-- A new entry that is no mapping takes the place of the old one. -/
  leaf : ∀ v, new path = some v → v.entries? = none → after path = some v
  /-- A new mapping is laid over an old one. -/
  merged : ∀ es fs, new path = some (.dict es) → old path = some (.dict fs) →
    after path = some (.dict (overlay fs es))
  /-- A new mapping takes the place of anything else, or of nothing. -/
  replaced : ∀ es, new path = some (.dict es) → (∀ fs, old path ≠ some (.dict fs)) →
    after path = some (.dict es)
  /-- A new entry that is no mapping hides everything that was below it. -/
  hidden : HasLeafAbove new path → after path = none
  /-- Nothing comes to be below an old entry that was no mapping but what is new. -/
  absent : HasLeafAbove old path → new path = none → after path = none
  /-- Everything else stays. -/
  kept : new path = none → ¬ HasLeafAbove new path → after path = old path

theorem overlaid_overlayValue (h : v.Keyed P) (o : Option Value) (path : List String) :
    Overlaid (fun p ↦ o.bind (find? p)) (find? · v) (find? · (overlayValue o v)) path where
  leaf w hw hleaf := by
    rw [find?_overlayValue_of_some h hw, overlayValue_of_leaf hleaf]
  merged es fs hes hfs := by
    rw [find?_overlayValue_of_some h hes, hfs, overlayValue, entriesOf]
  replaced es hes hfs := by
    have hnil : entriesOf (o.bind (find? path)) = [] := by
      rw [entriesOf.eq_def]
      split
      · rename_i fs hfs'
        exact (hfs fs hfs').elim
      · rfl
    rw [find?_overlayValue_of_some h hes,
      overlayValue_of_entriesOf_eq_nil (keyed_of_find? h hes) hnil]
  hidden habove := find?_overlayValue_of_hasLeafAbove h habove o
  absent := by
    intro hold hnew
    by_cases habove : HasLeafAbove (find? · v) path
    · exact find?_overlayValue_of_hasLeafAbove h habove o
    · rw [find?_overlayValue_of_none h hnew habove]
      cases o with
      | none => rfl
      | some u => exact find?_of_hasLeafAbove hold
  kept hnew habove := find?_overlayValue_of_none h hnew habove o

end Catalog

namespace Translator

/-- The entry at a path in the catalog of a locale. -/
def entryAt (t : Translator) (loc : String) (path : List String) : Option Value :=
  (t.catalog? loc).bind fun c ↦ Catalog.find? path (.dict c)

theorem put_put (loc : String) (c d : Catalog) (cs : List (String × Catalog)) :
    put loc d (put loc c cs) = put loc d cs := by
  induction cs with
  | nil => simp [put]
  | cons e r ih =>
    obtain ⟨l, b⟩ := e
    rw [put]
    split
    · rename_i hl
      rw [put, put, if_pos hl, if_pos hl]
    · rename_i hl
      rw [put, put, if_neg hl, if_neg hl, ih]

namespace Shop

/-- Plural forms, a message that is left empty, and a section. -/
def messages : Catalog :=
  [(.text "failed", .dict [(.text "one", .text "One"), (.text "other", .text "Some")]),
    (.text "email", .null), (.text "labels", .dict [(.text "name", .text "Name")])]

/-- Another form of a message, a section for the empty message, and a message for the section. -/
def corrections : Catalog :=
  [(.text "failed", .dict [(.text "one", .text "Just one")]),
    (.text "email", .dict [(.text "one", .text "Address")]), (.text "labels", .text "none")]

/-- A translator with these messages for one of its two locales. -/
def translator : Translator := ⟨[("fr", []), ("en", messages)], "en", "fr"⟩

theorem keyed_corrections : (Value.dict corrections).Keyed Value.IsRegularKey := by
  have hform : ∀ s : String, (Value.dict [(.text "one", .text s)]).Keyed Value.IsRegularKey := fun s ↦
    Value.keyed_of_texts [("one", .text s)] (List.nodup_singleton _)
      (List.forall_mem_singleton.mpr (.leaf rfl))
  refine Value.keyed_of_texts [("failed", .dict [(.text "one", .text "Just one")]),
    ("email", .dict [(.text "one", .text "Address")]), ("labels", .text "none")] (by decide) ?_
  simp only [List.forall_mem_cons, List.not_mem_nil, false_imp_iff, implies_true, and_true]
  exact ⟨hform _, hform _, .leaf rfl⟩

end Shop
end Translator
end Rulebook
