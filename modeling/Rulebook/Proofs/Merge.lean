import Rulebook.Proofs.Annotation
import Rulebook.Proofs.Gathering

/-!
# What a class sees of its ancestors

What classes store is merged from the last ancestor to the class itself, each mapping put over what
was there.  The result can be read the other way round (`Schema.merged_nearest`): the list of a
property is the one of the nearest class that stores the property.  Its order is that of the merge:
the properties come as they are first met when the ancestors are walked from the last one
(`Store.map_fst_seen`).

Both are true of any classes in any order.  Because the ancestors of an ancestor are ancestors, no
property of an ancestor is lost (`Store.isSome_lookup_seen`).
-/

set_option autoImplicit false

namespace Rulebook

namespace Properties

variable {ps acc : Properties} {names : List Value}

/-- Properties that are put come behind those that were there, unless they were there. -/
theorem map_fst_putAll (hacc : acc.map Prod.fst = Value.distinct names) :
    (ps.putAll acc).map Prod.fst = Value.distinct (names ++ ps.map Prod.fst) := by
  induction ps generalizing acc names with
  | nil => rw [List.map_nil, List.append_nil, ← hacc, putAll, List.foldl_nil]
  | cons e r ih =>
    have hput : (acc.put e.1 e.2).map Prod.fst = Value.distinct (names ++ [e.1]) := by
      rw [map_fst_put, hacc, distinct_concat]
    rw [putAll, List.foldl_cons, ← putAll, ih hput, List.append_assoc]
    rfl

end Properties

namespace Store

variable {s : Store} {key : String} {order : List ClassRef} {q : Value}

/-- The properties that classes store, from the last class on, each class in its own order. -/
def names (s : Store) (key : String) (order : List ClassRef) : List Value :=
  order.reverse.flatMap fun c ↦ (s.stored key c).map Prod.fst

theorem names_cons (c : ClassRef) (r : List ClassRef) :
    s.names key (c :: r) = s.names key r ++ (s.stored key c).map Prod.fst := by
  simp [names]

/-- **The properties come in the order in which they are first met.** -/
theorem map_fst_seen (order : List ClassRef) :
    (s.seen key order).map Prod.fst = Value.distinct (s.names key order) := by
  induction order with
  | nil => rfl
  | cons c r ih =>
    rw [seen, List.foldr_cons, ← seen, Properties.map_fst_putAll ih, names_cons]

/-- A property is seen exactly when some class stores it. -/
theorem isSome_lookup_seen_iff (hs : s.Sound key) (hq : q.isKey = true) :
    ((s.seen key order).lookup q).isSome = true ↔
      ∃ c ∈ order, ((s.stored key c).lookup q).isSome = true := by
  rw [lookup_seen hs order hq, List.findSome?_isSome_iff]

/-- Of more classes, no property is seen less. -/
theorem isSome_lookup_seen (hs : s.Sound key) (hq : q.isKey = true) {fewer : List ClassRef}
    (hfewer : fewer ⊆ order) (h : ((s.seen key fewer).lookup q).isSome = true) :
    ((s.seen key order).lookup q).isSome = true := by
  obtain ⟨c, hc, hstored⟩ := (isSome_lookup_seen_iff hs hq).mp h
  exact (isSome_lookup_seen_iff hs hq).mpr ⟨c, hfewer hc, hstored⟩

end Store

namespace Schema

variable {h : Hierarchy} {s : Store} {key : String}

/-- **What a class sees of mappings that are stored for it and its ancestors.**  There are the
properties that some of these classes store, each with the list of the nearest one that stores it,
in the order in which they are first met from the last ancestor on.  Every property that an ancestor
sees is among them.  Under the key of the lists of rules this is the schema of the class. -/
theorem merged_nearest (hh : h.Built) (hs : s.Sound key) (d : ClassRef) :
    ∃ ps, s.merged key (h.ancestors d) = .ok ps ∧ (key = rulesKey → ofClass s h d = .ok ps) ∧
      (∀ q, q.isKey = true →
        ((ps.lookup q).isSome = true ↔
          ∃ c ∈ h.ancestors d, ((s.stored key c).lookup q).isSome = true) ∧
        ∀ nearer c further l, h.ancestors d = nearer ++ c :: further →
          (∀ b ∈ nearer, (s.stored key b).lookup q = none) → (s.stored key c).lookup q = some l →
          ps.lookup q = some l) ∧
      ps.map Prod.fst = Value.distinct
        ((h.ancestors d).reverse.flatMap fun c ↦ (s.stored key c).map Prod.fst) ∧
      ∀ c ∈ h.ancestors d, ∃ qs, s.merged key (h.ancestors c) = .ok qs ∧
        ∀ q, q.isKey = true → (qs.lookup q).isSome = true → (ps.lookup q).isSome = true := by
  have hmerged := Store.merged_of_sound hs (h.ancestors d)
  refine ⟨_, hmerged, ?_, fun q hq ↦ ⟨Store.isSome_lookup_seen_iff hs hq, ?_⟩,
    Store.map_fst_seen _, fun c hc ↦ ⟨_, Store.merged_of_sound hs _, fun q hq ↦ ?_⟩⟩
  · rintro rfl
    exact hmerged
  · intro nearer c further l heq hnone hl
    rw [Store.lookup_seen hs _ hq, heq, List.findSome?_append,
      List.findSome?_eq_none_iff.mpr hnone, List.findSome?_cons, hl]
    rfl
  · exact Store.isSome_lookup_seen hs hq (Hierarchy.ancestors_sublist hh hc).subset

/-! ### Classes that store properties of their own and of each other -/

namespace Diamond

def age : Value := .text "age"

def whole : List Value := [.text "Integer"]

def adult : List Value := [.text "Integer", .text "NumberGreaterThan[17]"]

theorem isMapping_texts (es : List (String × List Value)) (h : (es.map Prod.fst).Nodup) :
    Properties.IsMapping (es.map fun e ↦ (.text e.1, e.2)) := by
  refine ⟨List.forall_mem_map.mpr fun _ _ ↦ rfl, List.pairwise_map.mpr ?_⟩
  refine (List.pairwise_map.mp h).imp fun {a b} hne ↦ Bool.eq_false_iff.mpr fun hsame ↦ hne ?_
  exact Value.text.inj ((Value.sameKey_text_iff (.text a.1) b.1).mp hsame)

/-- The base asks for a name and an age.  One side asks for an adult, and for a nickname besides;
the other side asks for a short name. -/
def patchwork : Store :=
  Store.set (Store.set (Store.set [] rulesKey top
    (Properties.toValue [(name, required), (age, whole)])) rulesKey left
    (Properties.toValue [(nick, short), (age, adult)])) rulesKey right
    (Properties.toValue [(name, required ++ short)])

theorem sound_patchwork : patchwork.Sound rulesKey :=
  ((Store.sound_nil.set (isMapping_texts [("name", required), ("age", whole)] (by decide))).set
    (isMapping_texts [("nick", short), ("age", adult)] (by decide))).set
    (isMapping_texts [("name", required ++ short)] (by decide))

/-- The class with both sides as bases takes the age from one side and the name from the other, and
sees them where the base put them. -/
theorem merged_nearest_bottom : hierarchy.Built ∧ patchwork.Sound rulesKey ∧
    ∃ ps, ofClass patchwork hierarchy bottom = .ok ps ∧ ps.map Prod.fst = [name, age, nick] ∧
      ps.lookup name = some (required ++ short) ∧ ps.lookup age = some adult := by
  obtain ⟨ps, -, hschema, hlists, horder, -⟩ := merged_nearest reached.built sound_patchwork bottom
  refine ⟨reached.built, sound_patchwork, ps, hschema rfl, ?_, ?_, ?_⟩
  · rw [horder]
    with_unfolding_all rfl
  · refine (hlists name rfl).2 [bottom, left] right [top, objectClass] _ rfl ?_ ?_
    · simp only [List.forall_mem_cons, List.not_mem_nil, false_imp_iff, implies_true, and_true]
      exact ⟨rfl, by with_unfolding_all rfl⟩
    · with_unfolding_all rfl
  · refine (hlists age rfl).2 [bottom] left [right, top, objectClass] _ rfl ?_ ?_
    · exact List.forall_mem_singleton.mpr rfl
    · with_unfolding_all rfl

end Diamond

end Schema
end Rulebook
