import Rulebook.Proofs.Annotation
import Rulebook.Proofs.Gathering
import Mathlib.Data.List.Infix

/-!
# Accumulation along single inheritance

Classes are declared with at most one base each and annotated in any order, except that no class is
annotated after one of its descendants has been (`Schema.Grown`).  Then the schema of a class is what
the annotations of its ancestors and its own gather into, from the root down (`schema_of_grown`).

A class that is annotated stores all lists that it sees.  What carries the induction
(`Schema.Snapshots`) is that this is at any time what the annotations of its chain of ancestors gather
into: what is annotated later is no ancestor of it.  For this the ancestors of a class have to end with
the ancestors of each of them (`Hierarchy.Chained`), as they do with single inheritance.
-/

set_option autoImplicit false

namespace Rulebook

/-! ## Chains of ancestors -/

namespace Hierarchy

variable {h h' : Hierarchy} {c d : ClassRef}

theorem objectClass_suffix_nativeOrder (name : String) : [objectClass] <:+ nativeOrder name := by
  rw [nativeOrder.eq_def]
  split
  all_goals try decide
  exact List.suffix_cons _ _

theorem suffix_nativeOrder (h : Hierarchy) {name : String} (hc : c ∈ nativeOrder name) :
    h.ancestors c <:+ nativeOrder name := by
  by_cases hfirst : c = .native name
  · rw [hfirst]
    exact List.suffix_rfl
  · rw [nativeOrder.eq_def] at hc
    split at hc <;> simp [hfirst] at hc
    all_goals try (rcases hc with rfl | rfl | rfl | rfl <;> rw [ancestors_native] <;> decide)
    exact hc ▸ objectClass_suffix_nativeOrder name

/-- The ancestors of every class end with those of each of them. -/
def Chained (h : Hierarchy) : Prop :=
  ∀ d, h.Knows d → ∀ c ∈ h.ancestors d, h.ancestors c <:+ h.ancestors d

theorem chained_nil : Chained [] := by
  intro d hd c hc
  cases d with
  | native name => exact suffix_nativeOrder [] hc
  | declared i name => cases hd

theorem Chained.orderOfBases (hh : h.Chained) {bases order : List ClassRef}
    (hbases : ∀ b ∈ bases, h.Knows b) (hone : bases.length ≤ 1)
    (ho : h.orderOfBases bases = .ok order) : ∀ c ∈ order, h.ancestors c <:+ order := by
  match bases, hone with
  | [], _ =>
    obtain rfl := Except.ok.inj ho
    exact fun c (hc : c ∈ nativeOrder "object") ↦ suffix_nativeOrder h hc
  | [b], _ =>
    obtain rfl := Except.ok.inj ho
    exact hh b (hbases b List.mem_cons_self)

/-- A class with at most one base puts itself in front of a chain. -/
theorem Chained.declare (hh : h.Built) (hchained : h.Chained) {name : String}
    {bases : List ClassRef} {key : Option Value} (hbases : ∀ b ∈ bases, h.Knows b)
    (hone : bases.length ≤ 1) (hd : h.declare name bases key = .ok (c, h')) : h'.Chained := by
  obtain ⟨order, ho, rfl, rfl⟩ := declare_eq_ok hd
  have hnew : ¬ h.Knows (.declared h.length name) :=
    fun hk ↦ Nat.lt_irrefl _ (hh.ordered.given _ _ hk)
  have hrespects := respects_orderOfBases hh.ordered hbases ho
  intro d hd c hc
  by_cases hdn : d = .declared h.length name
  · subst hdn
    rw [ancestors, List.lookup_cons_self] at hc ⊢
    rcases List.mem_cons.mp hc with rfl | hc
    · rw [ancestors, List.lookup_cons_self]
    · rw [ancestors_cons hnew (hrespects.knows c hc)]
      exact (hchained.orderOfBases hbases hone ho c hc).trans (List.suffix_cons _ _)
  · have hknows : h.Knows d := by
      cases d with
      | native name => trivial
      | declared i n =>
        rw [Knows, List.lookup_cons, beq_false_of_ne hdn] at hd
        exact hd
    rw [ancestors_cons hnew hknows] at hc ⊢
    rw [ancestors_cons hnew ((respects_ancestors hh.ordered hknows).knows c hc)]
    exact hchained d hknows c hc

/-- Also the ancestors of a class that there is not. -/
theorem Chained.suffix (hchained : h.Chained) (hc : c ∈ h.ancestors d) :
    h.ancestors c <:+ h.ancestors d := by
  by_cases hd : h.Knows d
  · exact hchained d hd c hc
  · rw [ancestors_of_not_knows hd] at hc ⊢
    rcases List.mem_cons.mp hc with rfl | hc
    · rw [ancestors_of_not_knows hd]
    · obtain rfl := List.mem_singleton.mp hc
      exact List.suffix_cons _ _

/-- In a list without duplicates, what begins with its first item and ends it is all of it. -/
theorem eq_of_suffix_cons {r r' : List ClassRef} (hnd : (c :: r').Nodup)
    (h : c :: r <:+ c :: r') : c :: r = c :: r' :=
  (List.suffix_cons_iff.mp h).resolve_right fun hr ↦
    (List.nodup_cons.mp hnd).1 (hr.subset List.mem_cons_self)

/-- The classes from an ancestor on are its own ancestors. -/
theorem Chained.eq_ancestors (hh : h.Built) (hchained : h.Chained) {r : List ClassRef}
    (hr : c :: r <:+ h.ancestors d) : c :: r = h.ancestors c := by
  have hnd := nodup_ancestors hh d
  have hsuffix := hchained.suffix (hr.subset List.mem_cons_self)
  obtain ⟨r', hr'⟩ := ancestors_eq_cons hh c
  rw [hr'] at hsuffix ⊢
  rcases List.suffix_or_suffix_of_suffix hr hsuffix with hle | hle
  · exact eq_of_suffix_cons (hnd.sublist hsuffix.sublist) hle
  · exact (eq_of_suffix_cons (hnd.sublist hr.sublist) hle).symm

end Hierarchy

namespace Schema

open Properties (IsName gather)

variable {h : Hierarchy} {s : Store} {log : List Annotation} {c d : ClassRef} {p q : Value}

/-! ## Histories -/

/-- Classes that are declared with at most one base each and annotated, no class after one of its
descendants has been, with the annotations that were made. -/
inductive Grown : Hierarchy → Store → List Annotation → Prop
  | start : Grown [] [] []
  | declare {h h' : Hierarchy} {s : Store} {log : List Annotation} {name : String}
      {bases : List ClassRef} {key : Option Value} {c : ClassRef} (hg : Grown h s log)
      (hbases : ∀ b ∈ bases, h.Knows b) (hone : bases.length ≤ 1)
      (hd : h.declare name bases key = .ok (c, h')) : Grown h' s log
  | attach {h : Hierarchy} {s s' : Store} {log : List Annotation} {c : ClassRef} {p : Value}
      {specs : List Value} (hg : Grown h s log) (hc : h.Knows c) (hp : IsName p)
      (hlast : ∀ a ∈ log, c ∈ h.ancestors a.cls → a.cls = c)
      (ha : Schema.attach s h c p specs = .ok s') : Grown h s' (log ++ [⟨c, p, specs⟩])
  | setOptions {h : Hierarchy} {s : Store} {log : List Annotation} {c : ClassRef} {o : Options}
      (hg : Grown h s log) : Grown h (setOptions s c o) log

theorem Grown.reached (hg : Grown h s log) : Reached h s := by
  induction hg with
  | start => exact .start
  | declare _ hbases _ hd ih => exact ih.declare hbases hd
  | attach _ _ hp _ ha ih => exact ih.attach hp.isKey ha
  | setOptions _ ih => exact ih.setOptions

/-- Annotating never fails. -/
theorem Grown.exists_attach (hg : Grown h s log) (hc : h.Knows c) (hp : IsName p)
    (hlast : ∀ a ∈ log, c ∈ h.ancestors a.cls → a.cls = c) (specs : List Value) :
    ∃ s', Grown h s' (log ++ [⟨c, p, specs⟩]) :=
  ⟨_, hg.attach hc hp hlast (attach_of_sound hg.reached.sound specs)⟩

/-- The annotations of some classes, those of the last one first; each in the order in which they were
made. -/
def ofOrder (log : List Annotation) (order : List ClassRef) : List Annotation :=
  order.reverse.flatMap fun c ↦ log.filter fun a ↦ a.cls = c

theorem ofOrder_cons (log : List Annotation) (c : ClassRef) (order : List ClassRef) :
    ofOrder log (c :: order) = ofOrder log order ++ log.filter fun a ↦ a.cls = c := by
  simp [ofOrder]

theorem mem_of_mem_ofOrder {order : List ClassRef} {a : Annotation} (ha : a ∈ ofOrder log order) :
    a ∈ log := by
  obtain ⟨c, -, ha⟩ := List.mem_flatMap.mp ha
  exact List.mem_of_mem_filter ha

/-- An annotation of another class changes nothing. -/
theorem ofOrder_concat_of_notMem {order : List ClassRef} {a : Annotation} (ha : a.cls ∉ order) :
    ofOrder (log ++ [a]) order = ofOrder log order := by
  refine List.flatMap_congr fun c hc ↦ ?_
  have hne : a.cls ≠ c := fun heq ↦ ha (heq ▸ List.mem_reverse.mp hc)
  simp [hne]

/-- An annotation of the first class comes last. -/
theorem ofOrder_concat_self {order : List ClassRef} {a : Annotation} (ha : a.cls ∉ order) :
    ofOrder (log ++ [a]) (a.cls :: order) = ofOrder log (a.cls :: order) ++ [a] := by
  rw [ofOrder_cons, ofOrder_cons, ofOrder_concat_of_notMem ha, List.filter_append]
  simp

/-! ## What the classes store -/

/-- What declaring and annotating classes keeps true: a class that was annotated stores what the
annotations of its ancestors and its own gather into, and a class that was not stores nothing. -/
structure Snapshots (h : Hierarchy) (s : Store) (log : List Annotation) : Prop where
  chained : h.Chained
  knows : ∀ a ∈ log, h.Knows a.cls
  named : ∀ a ∈ log, IsName a.property
  annotated : ∀ a ∈ log,
    s.stored rulesKey a.cls = gather (ofOrder log (h.ancestors a.cls))
  bare : ∀ c, (∀ a ∈ log, a.cls ≠ c) → s.stored rulesKey c = []

/-- What a class sees is what the annotations of its ancestors and its own gather into. -/
theorem Snapshots.seen_eq (hs : Snapshots h s log) {order : List ClassRef}
    (ho : ∀ c r, c :: r <:+ order → c :: r = h.ancestors c) :
    s.seen rulesKey order = gather (ofOrder log order) := by
  induction order with
  | nil => rfl
  | cons c r ih =>
    have ih := ih fun b r' hr ↦ ho b r' (hr.trans (List.suffix_cons c r))
    rw [Store.seen, List.foldr_cons, ← Store.seen, ih]
    by_cases hc : ∃ a ∈ log, a.cls = c
    · obtain ⟨a, ha, rfl⟩ := hc
      rw [hs.annotated a ha, ← ho a.cls r List.suffix_rfl, ofOrder_cons]
      refine Properties.putAll_gather fun b hb ↦ hs.named b ?_
      rw [← ofOrder_cons] at hb
      exact mem_of_mem_ofOrder hb
    · have hnone : ∀ a ∈ log, a.cls ≠ c := fun a ha heq ↦ hc ⟨a, ha, heq⟩
      have hfilter : log.filter (fun a ↦ a.cls = c) = [] := by
        simpa [List.filter_eq_nil_iff] using hnone
      rw [hs.bare c hnone, ofOrder_cons, hfilter, List.append_nil]
      rfl

theorem Snapshots.seen_ancestors (hh : h.Built) (hs : Snapshots h s log) (d : ClassRef) :
    s.seen rulesKey (h.ancestors d) = gather (ofOrder log (h.ancestors d)) :=
  hs.seen_eq fun _ _ hr ↦ hs.chained.eq_ancestors hh hr

theorem Snapshots.declare {h' : Hierarchy} {name : String} {bases : List ClassRef}
    {key : Option Value} (hh : h.Built) (hs : Snapshots h s log)
    (hbases : ∀ b ∈ bases, h.Knows b) (hone : bases.length ≤ 1)
    (hd : h.declare name bases key = .ok (c, h')) : Snapshots h' s log := by
  have hchained := hs.chained.declare hh hbases hone hd
  obtain ⟨order, -, rfl, rfl⟩ := Hierarchy.declare_eq_ok hd
  have hnew : ¬ h.Knows (.declared h.length name) :=
    fun hk ↦ Nat.lt_irrefl _ (hh.ordered.given _ _ hk)
  refine ⟨hchained, fun a ha ↦ (hs.knows a ha).cons, hs.named, fun a ha ↦ ?_, hs.bare⟩
  rw [Hierarchy.ancestors_cons hnew (hs.knows a ha)]
  exact hs.annotated a ha

theorem Snapshots.attach {s' : Store} {specs : List Value} (hr : Reached h s)
    (hs : Snapshots h s log) (hc : h.Knows c) (hp : IsName p)
    (hlast : ∀ a ∈ log, c ∈ h.ancestors a.cls → a.cls = c)
    (ha : attach s h c p specs = .ok s') : Snapshots h s' (log ++ [⟨c, p, specs⟩]) := by
  obtain ⟨r, hcr⟩ := Hierarchy.ancestors_eq_cons hr.built c
  have hnotin : c ∉ r := (List.nodup_cons.mp (hcr ▸ Hierarchy.nodup_ancestors hr.built c)).1
  have hown : s.changed rulesKey (h.ancestors c) p (· ++ specs) =
      gather (ofOrder (log ++ [⟨c, p, specs⟩]) (h.ancestors c)) := by
    rw [Store.changed, hs.seen_ancestors hr.built, hcr, ofOrder_concat_self hnotin,
      Properties.gather_concat]
  rw [attach_of_sound hr.sound, hown] at ha
  obtain rfl := Except.ok.inj ha
  refine ⟨hs.chained, ?_, ?_, fun a ha ↦ ?_, fun b hb ↦ ?_⟩
  · exact List.forall_mem_append.mpr ⟨hs.knows, List.forall_mem_singleton.mpr hc⟩
  · exact List.forall_mem_append.mpr ⟨hs.named, List.forall_mem_singleton.mpr hp⟩
  · rw [Store.stored_set]
    split
    · rename_i heq
      rw [heq]
    · rename_i hne
      -- A class that was annotated before is no descendant of the one that is annotated now.
      have ha : a ∈ log := (List.mem_append.mp ha).resolve_right fun hmem ↦
        hne (List.mem_singleton.mp hmem ▸ rfl)
      rw [hs.annotated a ha, ofOrder_concat_of_notMem fun hmem ↦ hne (hlast a ha hmem)]
  · obtain ⟨hlog, hne⟩ := List.forall_mem_append.mp hb
    rw [Store.stored_set, if_neg fun heq ↦ hne _ List.mem_cons_self heq.symm]
    exact hs.bare b hlog

theorem stored_setOptions (s : Store) (c d : ClassRef) (o : Options) :
    (setOptions s c o).stored rulesKey d = s.stored rulesKey d := by
  rw [Store.stored, Store.stored, setOptions, Store.own?_set_of_ne (by decide)]

theorem Grown.snapshots (hg : Grown h s log) : Snapshots h s log := by
  induction hg with
  | start => exact ⟨Hierarchy.chained_nil, nofun, nofun, nofun, fun _ _ ↦ rfl⟩
  | declare hg hbases hone hd ih => exact ih.declare hg.reached.built hbases hone hd
  | attach hg hc hp hlast ha ih => exact ih.attach hg.reached hc hp hlast ha
  | setOptions _ ih =>
    refine ⟨ih.chained, ih.knows, ih.named, fun a ha ↦ ?_, fun b hb ↦ ?_⟩
    · rw [stored_setOptions, ih.annotated a ha]
    · rw [stored_setOptions, ih.bare b hb]

/-! ## The schema of a class -/

/-- The specifications that annotations of a class attach to a property. -/
def attachedTo (log : List Annotation) (c : ClassRef) (q : Value) : List Value :=
  (log.filter fun a ↦ a.cls = c ∧ Value.sameKey a.property q).flatMap Annotation.specs

/-- **Annotations accumulate along single inheritance.**  Whatever classes with at most one base each
are declared and annotated, no class after one of its descendants, the schema of a class can be read.
The list of a property is what was attached to it, from the root down, for each class in the order in
which it was attached, and it is there when anything was attached to the property.  The properties
come in the order of the chain from the root down, for each class as they were first annotated. -/
theorem schema_of_grown (hg : Grown h s log) (d : ClassRef) : ∃ ps, ofClass s h d = .ok ps ∧
    (∀ q, q.isKey = true →
      (ps.lookup q = none ↔
        ∀ c ∈ h.ancestors d, ∀ a ∈ log, a.cls = c → Value.sameKey a.property q = false) ∧
      (ps.lookup q).getD [] = (h.ancestors d).reverse.flatMap fun c ↦ attachedTo log c q) ∧
    ps.map Prod.fst = Value.distinct ((h.ancestors d).reverse.flatMap fun c ↦
      (log.filter fun a ↦ a.cls = c).map Annotation.property) := by
  have hs := hg.snapshots
  have hnamed : ∀ a ∈ ofOrder log (h.ancestors d), IsName a.property :=
    fun a ha ↦ hs.named a (mem_of_mem_ofOrder ha)
  refine ⟨_, ofClass_of_sound hg.reached.sound h d, ?_⟩
  rw [hs.seen_ancestors hg.reached.built]
  refine ⟨fun q hq ↦ ⟨?_, ?_⟩, ?_⟩
  · rw [Properties.lookup_gather_eq_none_iff hnamed hq]
    simp only [ofOrder, List.mem_flatMap, List.mem_reverse, List.mem_filter, decide_eq_true_eq]
    exact ⟨fun hall c hc a ha hac ↦ hall a ⟨c, hc, ha, hac⟩,
      fun hall a ⟨c, hc, ha, hac⟩ ↦ hall c hc a ha hac⟩
  · rw [Properties.getD_lookup_gather hnamed hq, ofOrder, List.filter_flatMap, List.flatMap_assoc]
    refine List.flatMap_congr fun c _ ↦ ?_
    rw [attachedTo, List.filter_filter]
    refine congrArg (List.flatMap Annotation.specs) (List.filter_congr fun a _ ↦ ?_)
    rw [Bool.decide_and, Bool.decide_eq_true, Bool.and_comm]
  · rw [Properties.map_fst_gather, ofOrder, List.map_flatMap]

/-! ### A class with a base -/

namespace Diamond

/-- The base is annotated first, and then one side, with another property before the one that it
inherits. -/
def annotations : List Annotation :=
  [⟨top, name, required⟩, ⟨right, nick, [.text "Email"]⟩, ⟨right, name, short⟩]

theorem grown : ∃ s, Grown sides s annotations := by
  obtain ⟨htop, hleft, hright⟩ := declare_sides
  have hdeclared : Grown sides [] [] := by
    refine .declare (.declare (.declare .start ?_ ?_ htop) ?_ ?_ hleft) ?_ ?_ hright
    all_goals simp [Hierarchy.Knows, base, top]
  have hknowsTop : sides.Knows top := by simp [Hierarchy.Knows, sides, base, top]
  have hknowsRight : sides.Knows right := by simp [Hierarchy.Knows, sides, right]
  obtain ⟨s₁, h₁⟩ := hdeclared.exists_attach hknowsTop (Properties.isName_text "name")
    (fun _ h ↦ absurd h List.not_mem_nil) required
  obtain ⟨s₂, h₂⟩ := h₁.exists_attach hknowsRight (Properties.isName_text "nick") (by decide) [.text "Email"]
  exact h₂.exists_attach hknowsRight (Properties.isName_text "name") (by decide) short

/-- The side sees the name first, and what the base asks of it before what it asks itself. -/
theorem schema_of_grown_right : ∃ s ps, Grown sides s annotations ∧ ofClass s sides right = .ok ps ∧
    ps.map Prod.fst = [name, nick] ∧ (ps.lookup name).getD [] = required ++ short := by
  obtain ⟨s, hg⟩ := grown
  obtain ⟨ps, hps, hlists, horder⟩ := schema_of_grown hg right
  refine ⟨s, ps, hg, hps, ?_, ?_⟩
  · rw [horder]
    with_unfolding_all rfl
  · rw [(hlists name rfl).2]
    with_unfolding_all rfl

end Diamond

end Schema
end Rulebook
