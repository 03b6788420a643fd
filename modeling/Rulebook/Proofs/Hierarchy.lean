import Rulebook.Hierarchy
import Mathlib.Data.List.Nodup

/-!
# The order of ancestors

What is true of the ancestors of every class once classes are declared only with bases that there
are (`Hierarchy.Built`): a class comes first among its ancestors (`ancestors_eq_cons`), none of them
comes twice (`nodup_ancestors`), and the ancestors of an ancestor are among the ancestors of a class
in the order that they have themselves (`ancestors_sublist`).

The first part is about `ClassOrder.merge`: what it answers respects every order that it is given.
-/

set_option autoImplicit false

namespace Rulebook

/-! ## Merging orders -/

namespace ClassOrder

variable {c : ClassRef} {orders : List (List ClassRef)}

theorem next?_notMem_drop (h : next? orders = some c) {o : List ClassRef} (ho : o ∈ orders) :
    c ∉ o.drop 1 := by
  have hbehind := List.find?_some h
  rw [Bool.not_eq_true', isBehind, List.any_eq_false] at hbehind
  simpa using hbehind o ho

theorem exists_head?_of_next? (h : next? orders = some c) : ∃ o ∈ orders, o.head? = some c :=
  List.mem_filterMap.mp (List.mem_of_find?_eq_some h)

theorem mem_of_mem_without {d : ClassRef} {o : List ClassRef} (ho : o ∈ without c orders)
    (hd : d ∈ o) : ∃ o' ∈ orders, d ∈ o' := by
  obtain ⟨o', ho', rfl⟩ := List.mem_map.mp ho
  refine ⟨o', ho', ?_⟩
  split at hd
  · exact List.mem_of_mem_drop hd
  · exact hd

/-- Where the next class is taken away, it is gone. -/
theorem notMem_without (h : next? orders = some c) {o : List ClassRef}
    (ho : o ∈ without c orders) : c ∉ o := by
  obtain ⟨o', ho', rfl⟩ := List.mem_map.mp ho
  have hdrop := next?_notMem_drop h ho'
  split
  · exact hdrop
  · rename_i hhead
    cases o' with
    | nil => exact List.not_mem_nil
    | cons d r =>
      rw [List.head?_cons, Option.some.injEq] at hhead
      rw [List.drop_succ_cons, List.drop_zero] at hdrop
      rw [List.mem_cons, not_or]
      exact ⟨Ne.symm hhead, hdrop⟩

/-- An order that orders are merged into, one class after another. -/
inductive Merged : List (List ClassRef) → List ClassRef → Prop
  | nil {orders : List (List ClassRef)} (h : orders.all List.isEmpty = true) : Merged orders []
  | cons {c : ClassRef} {orders : List (List ClassRef)} {r : List ClassRef}
      (hc : next? orders = some c) (h : Merged (without c orders) r) : Merged orders (c :: r)

theorem merged_of_merge {fuel : Nat} {r : List ClassRef} (h : merge fuel orders = .ok r) :
    Merged orders r := by
  induction fuel generalizing orders r with
  | zero =>
    rw [merge] at h
    split at h
    · rename_i hall
      exact Except.ok.inj h ▸ .nil hall
    · cases h
  | succ fuel ih =>
    rw [merge] at h
    split at h
    · rename_i hall
      exact Except.ok.inj h ▸ .nil hall
    · split at h
      · cases h
      · rename_i c hc
        cases hm : merge fuel (without c orders) with
        | error e => rw [hm] at h; cases h
        | ok r' =>
          rw [hm] at h
          exact Except.ok.inj h ▸ .cons hc (ih hm)

namespace Merged

variable {r : List ClassRef}

/-- A merged order holds only classes of the orders that it is merged from. -/
theorem exists_mem (h : Merged orders r) {d : ClassRef} (hd : d ∈ r) : ∃ o ∈ orders, d ∈ o := by
  induction h with
  | nil => exact absurd hd List.not_mem_nil
  | cons hc _ ih =>
    rcases List.mem_cons.mp hd with rfl | hd
    · obtain ⟨o, ho, hhead⟩ := exists_head?_of_next? hc
      exact ⟨o, ho, List.mem_of_head? hhead⟩
    · obtain ⟨o, ho, hdo⟩ := ih hd
      exact mem_of_mem_without ho hdo

/-- No class comes twice in a merged order. -/
theorem nodup (h : Merged orders r) : r.Nodup := by
  induction h with
  | nil => exact List.nodup_nil
  | cons hc h ih =>
    refine List.nodup_cons.mpr ⟨fun hmem ↦ ?_, ih⟩
    obtain ⟨o, ho, hco⟩ := h.exists_mem hmem
    exact notMem_without hc ho hco

/-- **A merged order respects every order that it is merged from.** -/
theorem sublist (h : Merged orders r) {o : List ClassRef} (ho : o ∈ orders) : o.Sublist r := by
  induction h generalizing o with
  | nil hall => rw [List.isEmpty_iff.mp (List.all_eq_true.mp hall o ho)]
  | @cons c orders r hc _ ih =>
    have hrest := ih (List.mem_map_of_mem ho)
    split at hrest
    · rename_i hhead
      cases o with
      | nil => cases hhead
      | cons d o =>
        rw [List.head?_cons, Option.some.injEq] at hhead
        exact hhead ▸ hrest.cons_cons d
    · exact hrest.cons c

end Merged
end ClassOrder

/-! ## Hierarchies that come about -/

theorem nativeOrder_eq_cons (name : String) : ∃ r, nativeOrder name = .native name :: r := by
  rw [nativeOrder.eq_def]
  split <;> exact ⟨_, rfl⟩

theorem nodup_nativeOrder (name : String) : (nativeOrder name).Nodup := by
  rw [nativeOrder.eq_def]
  split
  all_goals try decide
  have hobject : name = "object" → False := by assumption
  simpa using hobject

namespace Hierarchy

@[simp] theorem ancestors_native (h : Hierarchy) (name : String) :
    h.ancestors (.native name) = nativeOrder name := rfl

theorem sublist_nativeOrder (h : Hierarchy) {name : String} {c : ClassRef}
    (hc : c ∈ nativeOrder name) : (h.ancestors c).Sublist (nativeOrder name) := by
  by_cases hfirst : c = .native name
  · rw [hfirst]
    exact List.Sublist.refl _
  · have hmem := hc
    rw [nativeOrder.eq_def] at hc
    split at hc <;> simp [hfirst] at hc
    all_goals try (rcases hc with rfl | rfl | rfl | rfl <;> rw [ancestors_native] <;> decide)
    subst hc
    exact List.singleton_sublist.mpr hmem

/-- Whether there is a class. -/
def Knows (h : Hierarchy) : ClassRef → Prop
  | .native _ => True
  | c@(.declared ..) => (h.lookup c).isSome = true

/-- A hierarchy that comes about when classes are declared one after another, each with bases that
there are. -/
inductive Built : Hierarchy → Prop
  | empty : Built []
  | declare {h h' : Hierarchy} {name : String} {bases : List ClassRef} {key : Option Value}
      {c : ClassRef} (hh : Built h) (hbases : ∀ b ∈ bases, h.Knows b)
      (hd : h.declare name bases key = .ok (c, h')) : Built h'

/-- What is true of an order of ancestors: none comes twice, there are all of them, and those of each
of them come in their own order. -/
structure Respects (h : Hierarchy) (order : List ClassRef) : Prop where
  nodup : order.Nodup
  knows : ∀ c ∈ order, h.Knows c
  sublist : ∀ c ∈ order, (h.ancestors c).Sublist order

/-- What declaring classes keeps true: the numbers of the classes that there are have been given, and
every class has an order of ancestors, itself first. -/
structure Ordered (h : Hierarchy) : Prop where
  given : ∀ i name, h.Knows (.declared i name) → i < h.length
  first : ∀ c info, h.lookup c = some info → ∃ r, info.order = c :: r
  respects : ∀ c info, h.lookup c = some info → h.Respects info.order

variable {h : Hierarchy} {c : ClassRef}

theorem respects_nativeOrder (name : String) : h.Respects (nativeOrder name) where
  nodup := nodup_nativeOrder name
  knows c hc := by
    obtain ⟨n, -, rfl⟩ := List.mem_map.mp hc
    trivial
  sublist _ := sublist_nativeOrder h

theorem respects_ancestors (hh : h.Ordered) (hc : h.Knows c) : h.Respects (h.ancestors c) := by
  cases c with
  | native name => exact respects_nativeOrder name
  | declared i name =>
    obtain ⟨info, hinfo⟩ := Option.isSome_iff_exists.mp hc
    rw [ancestors, hinfo]
    exact hh.respects _ _ hinfo

theorem ancestors_eq_cons_of_ordered (hh : h.Ordered) (c : ClassRef) :
    ∃ r, h.ancestors c = c :: r := by
  cases c with
  | native name => exact nativeOrder_eq_cons name
  | declared i name =>
    rw [ancestors]
    split
    · rename_i info hinfo
      exact hh.first _ _ hinfo
    · exact ⟨_, rfl⟩

theorem respects_of_merged (hh : h.Ordered) {bases order : List ClassRef}
    (hbases : ∀ b ∈ bases, h.Knows b)
    (ho : ClassOrder.Merged (bases.map h.ancestors ++ [bases]) order) : h.Respects order := by
  -- A base is among its own ancestors, so that every class of the order is an ancestor of a base.
  have hbase : ∀ c ∈ order, ∃ b ∈ bases, c ∈ h.ancestors b := by
    intro c hc
    obtain ⟨o, ho, hco⟩ := ho.exists_mem hc
    rcases List.mem_append.mp ho with ho | ho
    · obtain ⟨b, hb, rfl⟩ := List.mem_map.mp ho
      exact ⟨b, hb, hco⟩
    · obtain rfl := List.mem_singleton.mp ho
      obtain ⟨r, hr⟩ := ancestors_eq_cons_of_ordered hh c
      exact ⟨c, hco, hr ▸ List.mem_cons_self⟩
  refine ⟨ho.nodup, fun c hc ↦ ?_, fun c hc ↦ ?_⟩
  · obtain ⟨b, hb, hcb⟩ := hbase c hc
    exact (respects_ancestors hh (hbases b hb)).knows c hcb
  · obtain ⟨b, hb, hcb⟩ := hbase c hc
    have hin := List.mem_append_left [bases] (List.mem_map_of_mem (f := h.ancestors) hb)
    exact ((respects_ancestors hh (hbases b hb)).sublist c hcb).trans (ho.sublist hin)

/-- The order of the ancestors that a class with some bases gets. -/
theorem respects_orderOfBases (hh : h.Ordered) {bases order : List ClassRef}
    (hbases : ∀ b ∈ bases, h.Knows b) (ho : h.orderOfBases bases = .ok order) :
    h.Respects order := by
  rw [orderOfBases.eq_def] at ho
  split at ho
  · obtain rfl := Except.ok.inj ho
    exact respects_nativeOrder "object"
  · obtain rfl := Except.ok.inj ho
    exact respects_ancestors hh (hbases _ List.mem_cons_self)
  · split at ho
    · cases ho
    · split at ho
      · rename_i order' hmerge
        obtain rfl := Except.ok.inj ho
        exact respects_of_merged hh hbases (ClassOrder.merged_of_merge hmerge)
      · cases ho

/-! ### Declaring a class -/

theorem declare_eq_ok {h' : Hierarchy} {name : String} {bases : List ClassRef} {key : Option Value}
    (hd : h.declare name bases key = .ok (c, h')) :
    ∃ order, h.orderOfBases bases = .ok order ∧ c = .declared h.length name ∧
      h' = (c, ⟨c :: order, key⟩) :: h := by
  rw [declare] at hd
  split at hd
  · cases hd
  · cases ho : h.orderOfBases bases with
    | error f => rw [ho] at hd; cases hd
    | ok order =>
      rw [ho] at hd
      obtain ⟨rfl, rfl⟩ := Prod.mk.inj (Except.ok.inj hd)
      exact ⟨order, rfl, rfl, rfl⟩

/-- Declaring a class leaves alone what was there. -/
theorem ancestors_cons {info : ClassInfo} (hc : ¬ h.Knows c) {d : ClassRef} (hd : h.Knows d) :
    ancestors ((c, info) :: h) d = h.ancestors d := by
  have hne : d ≠ c := fun heq ↦ hc (heq ▸ hd)
  cases d with
  | native name => rfl
  | declared i name =>
    rw [ancestors, ancestors, List.lookup_cons, beq_false_of_ne hne]

theorem Knows.cons {info : ClassInfo} {d : ClassRef} (hd : h.Knows d) :
    Knows ((c, info) :: h) d := by
  cases d with
  | native name => trivial
  | declared i name =>
    rw [Knows, List.lookup_cons]
    split
    · rfl
    · exact hd

theorem Respects.cons {info : ClassInfo} (hc : ¬ h.Knows c) {order : List ClassRef}
    (ho : h.Respects order) : Respects ((c, info) :: h) order where
  nodup := ho.nodup
  knows d hd := (ho.knows d hd).cons
  sublist d hd := ancestors_cons hc (ho.knows d hd) ▸ ho.sublist d hd

/-- A new class in front of an order of ancestors. -/
theorem Respects.declare {order : List ClassRef} {key : Option Value} {name : String} {i : Nat}
    (hnew : ¬ h.Knows (.declared i name)) (ho : h.Respects order) :
    Respects ((.declared i name, ⟨.declared i name :: order, key⟩) :: h)
      (.declared i name :: order) := by
  have hcons : Respects ((.declared i name, ⟨.declared i name :: order, key⟩) :: h) order :=
    ho.cons hnew
  refine ⟨List.nodup_cons.mpr ⟨fun hmem ↦ hnew (ho.knows _ hmem), ho.nodup⟩, fun d hd ↦ ?_,
    fun d hd ↦ ?_⟩
  · rcases List.mem_cons.mp hd with rfl | hd
    · rw [Knows, List.lookup_cons_self]
      rfl
    · exact hcons.knows d hd
  · rcases List.mem_cons.mp hd with rfl | hd
    · rw [ancestors, List.lookup_cons_self]
    · exact (hcons.sublist d hd).cons _

theorem Ordered.declare (hh : h.Ordered) {h' : Hierarchy} {name : String} {bases : List ClassRef}
    {key : Option Value} (hbases : ∀ b ∈ bases, h.Knows b)
    (hd : h.declare name bases key = .ok (c, h')) : h'.Ordered := by
  obtain ⟨order, ho, rfl, rfl⟩ := declare_eq_ok hd
  have hnew : ¬ h.Knows (.declared h.length name) := fun hk ↦ Nat.lt_irrefl _ (hh.given _ _ hk)
  refine ⟨fun i n hk ↦ ?_, fun d info hinfo ↦ ?_, fun d info hinfo ↦ ?_⟩
  · rw [Knows, List.lookup_cons] at hk
    rw [List.length_cons]
    split at hk
    · rename_i heq
      have := eq_of_beq heq
      rw [ClassRef.declared.injEq] at this
      omega
    · exact Nat.lt_succ_of_lt (hh.given i n hk)
  · rw [List.lookup_cons] at hinfo
    split at hinfo
    · rename_i heq
      obtain rfl := Option.some.inj hinfo
      exact ⟨order, eq_of_beq heq ▸ rfl⟩
    · exact hh.first d info hinfo
  · rw [List.lookup_cons] at hinfo
    split at hinfo
    · obtain rfl := Option.some.inj hinfo
      exact (respects_orderOfBases hh hbases ho).declare hnew
    · exact (hh.respects d info hinfo).cons hnew

theorem Built.ordered (hh : h.Built) : h.Ordered := by
  induction hh with
  | empty =>
    exact ⟨fun _ _ hk ↦ (nomatch hk), fun _ _ hk ↦ (nomatch hk), fun _ _ hk ↦ (nomatch hk)⟩
  | declare _ hbases hd ih => exact ih.declare hbases hd

/-! ## The order of ancestors -/

/-- A class comes first among its ancestors. -/
theorem ancestors_eq_cons (hh : h.Built) (c : ClassRef) : ∃ r, h.ancestors c = c :: r :=
  ancestors_eq_cons_of_ordered hh.ordered c

theorem mem_ancestors_self (hh : h.Built) (c : ClassRef) : c ∈ h.ancestors c := by
  obtain ⟨r, hr⟩ := ancestors_eq_cons hh c
  exact hr ▸ List.mem_cons_self

/-- A class that there is not has no ancestors but itself and the class of everything. -/
theorem ancestors_of_not_knows (hc : ¬ h.Knows c) : h.ancestors c = [c, objectClass] := by
  cases c with
  | native name => exact (hc trivial).elim
  | declared i name =>
    rw [Knows, Bool.not_eq_true, Option.isSome_eq_false_iff, Option.isNone_iff_eq_none] at hc
    rw [ancestors, hc]

/-- No class comes twice among the ancestors of a class. -/
theorem nodup_ancestors (hh : h.Built) (c : ClassRef) : (h.ancestors c).Nodup := by
  by_cases hc : h.Knows c
  · exact (respects_ancestors hh.ordered hc).nodup
  · rw [ancestors_of_not_knows hc]
    refine List.nodup_cons.mpr ⟨fun hmem ↦ ?_, List.nodup_singleton _⟩
    obtain rfl := List.mem_singleton.mp hmem
    exact hc trivial

/-- **The ancestors of an ancestor come in their own order.** -/
theorem ancestors_sublist (hh : h.Built) {d : ClassRef} (hc : c ∈ h.ancestors d) :
    (h.ancestors c).Sublist (h.ancestors d) := by
  by_cases hd : h.Knows d
  · exact (respects_ancestors hh.ordered hd).sublist c hc
  · rw [ancestors_of_not_knows hd] at hc ⊢
    rcases List.mem_cons.mp hc with rfl | hc
    · rw [ancestors_of_not_knows hd]
    · obtain rfl := List.mem_singleton.mp hc
      exact List.sublist_cons_self _ _

end Hierarchy
end Rulebook
