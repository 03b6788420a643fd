import Rulebook.Proofs.Accumulation
import Rulebook.Proofs.Merge

/-!
# Attaching to several properties of a class

To attach entries to properties of a class is to read, change and store the whole schema of the
class once for each entry.  What comes out is what one would write down (`Schema.attachAll_effect`):
the list of a property gets the specifications of its entries at its end, a new property comes last,
and the rest of the schema stays.  A class that does not have the class among its ancestors sees
what it saw before, and no options change.

What carries the induction (`Schema.Gathers`) is that the class sees at any time what annotations
gather into: those that give the schema it had, one for each property, and the ones made since.  A
class that stores everything it sees still sees just that, because the properties of its ancestors
come first in it (`Store.seen_set_changed`).
-/

set_option autoImplicit false

namespace Rulebook

/-! ## Entries -/

namespace Attachment

/-- The specifications that an entry holds. -/
def heldBy : Value → List Value
  | .attachment specs => specs
  | .list specs | .tuple specs => specs
  | spec => [spec]

/-- The entries for a property: a list or a tuple of them, or just one. -/
def listed : Value → List Value
  | .list es | .tuple es => es
  | e => [e]

theorem ofEntry_eq_heldBy (e : Value) : ofEntry e = heldBy e := by
  cases e <;> simp [ofEntry, ofSpecs, heldBy, Value.items?]

theorem entriesOf_eq_listed (v : Value) : entriesOf v = listed v := by
  cases v <;> rfl

end Attachment

/-! ## Properties that come first -/

namespace Properties

variable {ps acc : Properties} {p q : Value} {log later : List Annotation}

theorem map_fst_prefix_put (ps : Properties) (p : Value) (l : List Value) :
    ps.map Prod.fst <+: (ps.put p l).map Prod.fst := by
  rw [map_fst_put]
  split
  · exact List.prefix_rfl
  · exact List.prefix_append _ _

/-- The properties over which others are put come first. -/
theorem map_fst_prefix_putAll (ps acc : Properties) :
    acc.map Prod.fst <+: (ps.putAll acc).map Prod.fst := by
  induction ps generalizing acc with
  | nil => exact List.prefix_rfl
  | cons e r ih => exact (map_fst_prefix_put acc e.1 e.2).trans (ih _)

theorem forall_mem_putAll {P : Value → Prop} (hps : ∀ e ∈ ps, P e.1) (hacc : ∀ e ∈ acc, P e.1) :
    ∀ e ∈ ps.putAll acc, P e.1 := by
  induction ps generalizing acc with
  | nil => exact hacc
  | cons e r ih =>
    obtain ⟨he, hr⟩ := List.forall_mem_cons.mp hps
    refine ih hr fun d hd ↦ ?_
    rcases mem_put hd with heq | ⟨b, hb, heq⟩
    · exact heq ▸ he
    · exact heq ▸ hacc b hb

theorem any_sameKey_eq_isSome : (ps.map Prod.fst).any (fun x ↦ Value.sameKey x p) =
    (ps.lookup p).isSome := by
  rw [Bool.eq_iff_iff, Option.isSome_iff_ne_none, Ne, lookup_eq_none_iff, List.any_map]
  simp

/-- A mapping is what one annotation of each of its properties gathers into. -/
theorem gather_map (hps : IsMapping ps) (c : ClassRef) :
    gather (ps.map fun e ↦ ⟨c, e.1, e.2⟩) = ps := by
  induction ps using List.reverseRecOn with
  | nil => rfl
  | append_singleton ps e ih =>
    obtain ⟨hdistinct, -, hnew⟩ := List.pairwise_append.mp hps.distinct
    have hps' : IsMapping ps := ⟨fun d hd ↦ hps.keys d (List.mem_append_left _ hd), hdistinct⟩
    have hnew : ∀ d ∈ ps, Value.sameKey d.1 e.1 = false :=
      fun d hd ↦ hnew d hd e List.mem_cons_self
    have hput : Properties.put e.1 e.2 (ps ++ []) = ps ++ [e] := put_append hnew
    rw [List.append_nil] at hput
    rw [List.map_append, List.map_singleton, gather_concat, ih hps', lookup_eq_none_iff.mpr hnew,
      Option.getD_none, List.nil_append, hput]

/-! ### Annotations that are made later -/

/-- What is attached later comes behind what was attached before. -/
theorem lookup_gather_append_of_mem (h : ∀ a ∈ log ++ later, IsName a.property)
    (hq : q.isKey = true) {a : Annotation} (ha : a ∈ later)
    (haq : Value.sameKey a.property q = true) : (gather (log ++ later)).lookup q =
      some (((gather log).lookup q).getD [] ++
        (later.filter fun a ↦ Value.sameKey a.property q).flatMap Annotation.specs) := by
  have hany : (log ++ later).any (fun a ↦ Value.sameKey a.property q) = true :=
    List.any_eq_true.mpr ⟨a, List.mem_append_right _ ha, haq⟩
  rw [lookup_gather h hq, if_pos hany, getD_lookup_gather (List.forall_mem_append.mp h).1 hq,
    List.filter_append, List.flatMap_append]

/-- A property that is not annotated later keeps its list. -/
theorem lookup_gather_append_of_forall (h : ∀ a ∈ log ++ later, IsName a.property)
    (hq : q.isKey = true) (hlater : ∀ a ∈ later, Value.sameKey a.property q = false) :
    (gather (log ++ later)).lookup q = (gather log).lookup q := by
  have hany : later.any (fun a ↦ Value.sameKey a.property q) = false := by simpa using hlater
  have hfilter : later.filter (fun a ↦ Value.sameKey a.property q) = [] := by
    simpa [List.filter_eq_nil_iff] using hlater
  rw [lookup_gather h hq, lookup_gather (List.forall_mem_append.mp h).1 hq, List.any_append,
    List.filter_append, hany, hfilter, Bool.or_false, List.append_nil]

/-- Annotations of one property add it behind the others, unless there are none or it is there. -/
theorem map_fst_gather_append_map (c : ClassRef) (hp : IsName p) (vs : List (List Value))
    (hlog : ∀ a ∈ log, IsName a.property) :
    (gather (log ++ vs.map fun l ↦ ⟨c, p, l⟩)).map Prod.fst = (gather log).map Prod.fst ++
      if !vs.isEmpty && ((gather log).lookup p).isNone then [p] else [] := by
  induction vs generalizing log with
  | nil => simp
  | cons l r ih =>
    have hlog' : ∀ a ∈ log ++ [⟨c, p, l⟩], IsName a.property :=
      List.forall_mem_append.mpr ⟨hlog, List.forall_mem_singleton.mpr hp⟩
    have hthere : ((gather (log ++ [⟨c, p, l⟩])).lookup p).isNone = false := by
      rw [lookup_gather hlog' hp.isKey]
      simp [hp.same]
    have hsplit : log ++ (l :: r).map (fun l ↦ (⟨c, p, l⟩ : Annotation)) =
        (log ++ [⟨c, p, l⟩]) ++ r.map fun l ↦ ⟨c, p, l⟩ := by simp
    rw [hsplit, ih hlog', hthere, Bool.and_false, if_neg Bool.false_ne_true, List.append_nil,
      gather_concat, map_fst_put, any_sameKey_eq_isSome]
    cases (gather log).lookup p <;> simp

end Properties

/-! ## Storing what a class sees -/

namespace Store

variable {s : Store} {key : String} {c : ClassRef} {order : List ClassRef} {p : Value}

/-- What holds of the properties that some classes store holds of those that are seen. -/
theorem forall_mem_seen {P : Value → Prop} (h : ∀ b ∈ order, ∀ e ∈ s.stored key b, P e.1) :
    ∀ e ∈ s.seen key order, P e.1 := by
  induction order with
  | nil => exact nofun
  | cons b r ih =>
    obtain ⟨hb, hr⟩ := List.forall_mem_cons.mp h
    exact Properties.forall_mem_putAll hb (ih hr)

theorem seen_set_of_notMem {ps : Properties} (hc : c ∉ order) :
    (s.set key c ps.toValue).seen key order = s.seen key order := by
  induction order with
  | nil => rfl
  | cons d r ih =>
    obtain ⟨hd, hr⟩ := not_or.mp (List.mem_cons.not.mp hc)
    rw [seen, List.foldr_cons, ← seen, ih hr, stored_set, if_neg (Ne.symm hd)]
    rfl

/-- **A class that stores all that it sees, with one list changed, sees just that.** -/
theorem seen_set_changed (hs : s.Sound key) (hp : p.isKey = true) (hc : c ∉ order)
    (change : List Value → List Value)
    (hsame : ∀ e ∈ s.changed key (c :: order) p change, Value.sameKey e.1 e.1 = true) :
    (s.set key c (s.changed key (c :: order) p change).toValue).seen key (c :: order) =
      s.changed key (c :: order) p change := by
  have hfirst : (s.seen key order).map Prod.fst <+:
      (s.changed key (c :: order) p change).map Prod.fst :=
    (Properties.map_fst_prefix_putAll (s.stored key c) _).trans
      (Properties.map_fst_prefix_put _ p _)
  rw [seen, List.foldr_cons, ← seen, seen_set_of_notMem hc, stored_set, if_pos rfl]
  have hmapping : Properties.IsMapping ([] ++ s.changed key (c :: order) p change) :=
    isMapping_changed hs hp
  exact Properties.putAll_append hmapping hsame hfirst

end Store

namespace Schema

open Properties (IsName gather)

variable {h : Hierarchy} {s s' s'' : Store} {log later : List Annotation} {c d : ClassRef}
  {p q v : Value} {ps : Properties} {entries : List Entry}

/-! ## Properties that can be named -/

/-- The properties that classes store are names. -/
def Named (s : Store) : Prop := ∀ b, ∀ e ∈ s.stored rulesKey b, IsName e.1

theorem named_nil : Named [] := fun _ ↦ nofun

/-- They stay names when a name is annotated. -/
theorem Named.attach (hsound : s.Sound rulesKey) (hs : Named s) (hp : IsName p)
    {specs : List Value} (ha : attach s h c p specs = .ok s') : Named s' := by
  rw [attach_of_sound hsound] at ha
  intro b
  rw [← Except.ok.inj ha, Store.stored_set]
  split
  · intro e he
    rcases Properties.mem_put he with heq | ⟨d, hd, heq⟩
    · exact heq ▸ hp
    · exact heq ▸ Store.forall_mem_seen (fun b _ ↦ hs b) d hd
  · exact hs b

/-! ## What is attached -/

/-- What the entries for a property attach to it. -/
def annotationsFor (c : ClassRef) (p v : Value) : List Annotation :=
  (Attachment.entriesOf v).map fun e ↦ ⟨c, p, Attachment.ofEntry e⟩

/-- What a mapping of properties to entries attaches to them. -/
def annotationsOf (c : ClassRef) (rules : List Entry) : List Annotation :=
  rules.flatMap fun e ↦ annotationsFor c e.1 e.2

/-! ## What attaching keeps -/

/-- A class sees what annotations gather into. -/
structure Gathers (h : Hierarchy) (c : ClassRef) (s : Store) (log : List Annotation) : Prop where
  reached : Reached h s
  stored : Named s
  named : ∀ a ∈ log, IsName a.property
  seen : s.seen rulesKey (h.ancestors c) = gather log

/-- What stays when something is attached to a class: what is seen by the classes that it is no
ancestor of, and all options. -/
structure Spares (h : Hierarchy) (c : ClassRef) (s s' : Store) : Prop where
  seen : ∀ d, c ∉ h.ancestors d →
    s'.seen rulesKey (h.ancestors d) = s.seen rulesKey (h.ancestors d)
  options : s'.own? optionsKey = s.own? optionsKey

theorem Spares.refl (h : Hierarchy) (c : ClassRef) (s : Store) : Spares h c s s :=
  ⟨fun _ _ ↦ rfl, rfl⟩

theorem Spares.trans (hs : Spares h c s s') (hs' : Spares h c s' s'') : Spares h c s s'' :=
  ⟨fun d hd ↦ (hs'.seen d hd).trans (hs.seen d hd), hs'.options.trans hs.options⟩

theorem Spares.options_eq (hs : Spares h c s s') (d : ClassRef) :
    Schema.options s' h d = Schema.options s h d := by
  rw [Schema.options, Schema.options, Store.inherited?, Store.inherited?, hs.options]

/-- Attaching specifications to a property is one more annotation. -/
theorem Gathers.attach (hs : Gathers h c s log) (hp : IsName p) (specs : List Value) :
    ∃ s', attach s h c p specs = .ok s' ∧ Gathers h c s' (log ++ [⟨c, p, specs⟩]) ∧
      Spares h c s s' := by
  have hsound := hs.reached.sound
  have hattach := attach_of_sound (h := h) (c := c) (p := p) hsound specs
  obtain ⟨r, hr⟩ := Hierarchy.ancestors_eq_cons hs.reached.built c
  have hnotin : c ∉ r := (List.nodup_cons.mp (hr ▸ Hierarchy.nodup_ancestors hs.reached.built c)).1
  have hnamed : ∀ a ∈ log ++ [⟨c, p, specs⟩], IsName a.property :=
    List.forall_mem_append.mpr ⟨hs.named, List.forall_mem_singleton.mpr hp⟩
  have hchanged : s.changed rulesKey (h.ancestors c) p (· ++ specs) =
      gather (log ++ [⟨c, p, specs⟩]) := by
    rw [Store.changed, hs.seen, Properties.gather_concat]
  refine ⟨_, hattach, ⟨hs.reached.attach hp.isKey hattach, hs.stored.attach hsound hp hattach,
    hnamed, ?_⟩, fun d hd ↦ ?_, ?_⟩
  · rw [← hchanged, hr]
    refine Store.seen_set_changed hsound hp.isKey hnotin _ fun e he ↦ ?_
    rw [← hr, hchanged] at he
    exact (Properties.isName_of_mem_gather hnamed e he).same
  · exact Store.seen_set_of_notMem hd
  · exact funext fun d ↦ Store.own?_set_of_ne (by decide) _

theorem Gathers.attachEntries (hs : Gathers h c s log) (hp : IsName p) (es : List Value) :
    ∃ s', attachEntries h c p es s = .ok s' ∧
      Gathers h c s' (log ++ es.map fun e ↦ ⟨c, p, Attachment.ofEntry e⟩) ∧ Spares h c s s' := by
  induction es generalizing s log with
  | nil => exact ⟨s, rfl, by simpa using hs, .refl h c s⟩
  | cons e r ih =>
    obtain ⟨s₁, hattach, hs₁, hspares₁⟩ := hs.attach hp (Attachment.ofEntry e)
    obtain ⟨s₂, hrest, hs₂, hspares₂⟩ := ih hs₁
    refine ⟨s₂, ?_, by simpa using hs₂, hspares₁.trans hspares₂⟩
    rw [Schema.attachEntries, hattach]
    exact hrest

theorem Gathers.attachAll (hs : Gathers h c s log) (hentries : ∀ e ∈ entries, IsName e.1) :
    ∃ s', attachAll h c entries s = .ok s' ∧ Gathers h c s' (log ++ annotationsOf c entries) ∧
      Spares h c s s' := by
  induction entries generalizing s log with
  | nil => exact ⟨s, rfl, by simpa [annotationsOf] using hs, .refl h c s⟩
  | cons e r ih =>
    obtain ⟨he, hr⟩ := List.forall_mem_cons.mp hentries
    obtain ⟨s₁, hattach, hs₁, hspares₁⟩ := hs.attachEntries he (Attachment.entriesOf e.2)
    obtain ⟨s₂, hrest, hs₂, hspares₂⟩ := ih hs₁ hr
    refine ⟨s₂, ?_, by simpa [annotationsOf, annotationsFor] using hs₂, hspares₁.trans hspares₂⟩
    rw [Schema.attachAll, hattach]
    exact hrest

/-- A class sees what one annotation of each of its properties gathers into. -/
theorem Reached.gathers (hr : Reached h s) (hnamed : Named s) (c : ClassRef) :
    Gathers h c s ((s.seen rulesKey (h.ancestors c)).map fun e ↦ ⟨c, e.1, e.2⟩) where
  reached := hr
  stored := hnamed
  named := List.forall_mem_map.mpr (Store.forall_mem_seen fun b _ ↦ hnamed b)
  seen := (Properties.gather_map (Store.isMapping_seen hr.sound _) c).symm

/-! ## What is attached to each property -/

theorem property_of_mem_annotationsFor {a : Annotation} (ha : a ∈ annotationsFor c p v) :
    a.property = p := by
  obtain ⟨e, -, rfl⟩ := List.mem_map.mp ha
  rfl

theorem filter_annotationsFor_self (hp : IsName p) (c : ClassRef) (v : Value) :
    (annotationsFor c p v).filter (fun a ↦ Value.sameKey a.property p) = annotationsFor c p v :=
  List.filter_eq_self.mpr fun _ ha ↦ (property_of_mem_annotationsFor ha).symm ▸ hp.same

theorem filter_annotationsFor_of_ne (hpq : Value.sameKey p q = false) (c : ClassRef) (v : Value) :
    (annotationsFor c p v).filter (fun a ↦ Value.sameKey a.property q) = [] := by
  refine List.filter_eq_nil_iff.mpr fun a ha ↦ ?_
  rw [property_of_mem_annotationsFor ha, hpq]
  exact Bool.false_ne_true

theorem flatMap_annotationsFor (c : ClassRef) (p v : Value) :
    (annotationsFor c p v).flatMap Annotation.specs =
      (Attachment.listed v).flatMap Attachment.heldBy := by
  rw [annotationsFor, List.flatMap_map, Attachment.entriesOf_eq_listed]
  exact List.flatMap_congr fun e _ ↦ Attachment.ofEntry_eq_heldBy e

/-- An entry of a mapping is all that the mapping attaches to its property. -/
theorem flatMap_filter_annotationsOf (hentries : ∀ e ∈ entries, IsName e.1)
    (hdistinct : entries.Pairwise fun a b ↦ Value.sameKey a.1 b.1 = false) {e : Entry}
    (he : e ∈ entries) :
    ((annotationsOf c entries).filter fun a ↦ Value.sameKey a.property e.1).flatMap
      Annotation.specs = (Attachment.listed e.2).flatMap Attachment.heldBy := by
  induction entries with
  | nil => cases he
  | cons d r ih =>
    obtain ⟨hd, hr⟩ := List.forall_mem_cons.mp hentries
    obtain ⟨hfirst, hrest⟩ := List.pairwise_cons.mp hdistinct
    rw [annotationsOf, List.flatMap_cons, List.filter_append, ← annotationsOf]
    rcases List.mem_cons.mp he with rfl | he
    · have hnone : (annotationsOf c r).filter (fun a ↦ Value.sameKey a.property e.1) = [] := by
        rw [annotationsOf, List.filter_flatMap, List.flatMap_eq_nil_iff]
        intro b hb
        refine filter_annotationsFor_of_ne ?_ c b.2
        rw [Value.sameKey_comm (hr b hb).isKey hd.isKey]
        exact hfirst b hb
      rw [filter_annotationsFor_self hd, hnone, List.append_nil, flatMap_annotationsFor]
    · rw [filter_annotationsFor_of_ne (hfirst e he), List.nil_append]
      exact ih hr hrest he

/-- New properties come behind the others, in the order of the mapping. -/
theorem map_fst_gather_annotationsOf (hlog : ∀ a ∈ log, IsName a.property)
    (hentries : ∀ e ∈ entries, IsName e.1)
    (hdistinct : entries.Pairwise fun a b ↦ Value.sameKey a.1 b.1 = false) :
    (gather (log ++ annotationsOf c entries)).map Prod.fst = (gather log).map Prod.fst ++
      (entries.filter fun e ↦ !(Attachment.listed e.2).isEmpty &&
        ((gather log).lookup e.1).isNone).map Prod.fst := by
  induction entries generalizing log with
  | nil => simp [annotationsOf]
  | cons e r ih =>
    obtain ⟨he, hr⟩ := List.forall_mem_cons.mp hentries
    obtain ⟨hfirst, hrest⟩ := List.pairwise_cons.mp hdistinct
    have hnamed : ∀ a ∈ log ++ annotationsFor c e.1 e.2, IsName a.property :=
      List.forall_mem_append.mpr
        ⟨hlog, fun a ha ↦ (property_of_mem_annotationsFor ha).symm ▸ he⟩
    have hkeep : ∀ d ∈ r, (gather (log ++ annotationsFor c e.1 e.2)).lookup d.1 =
        (gather log).lookup d.1 := by
      intro d hd
      refine Properties.lookup_gather_append_of_forall hnamed (hr d hd).isKey fun a ha ↦ ?_
      rw [property_of_mem_annotationsFor ha]
      exact hfirst d hd
    have hfresh : r.filter (fun d ↦ !(Attachment.listed d.2).isEmpty &&
          ((gather (log ++ annotationsFor c e.1 e.2)).lookup d.1).isNone) =
        r.filter fun d ↦ !(Attachment.listed d.2).isEmpty && ((gather log).lookup d.1).isNone :=
      List.filter_congr fun d hd ↦ by rw [hkeep d hd]
    have hone := Properties.map_fst_gather_append_map c he
      ((Attachment.entriesOf e.2).map Attachment.ofEntry) hlog
    rw [List.map_map, List.isEmpty_map, Attachment.entriesOf_eq_listed] at hone
    rw [annotationsOf, List.flatMap_cons, ← annotationsOf, ← List.append_assoc, ih hnamed hr hrest,
      hfresh, annotationsFor, Attachment.entriesOf_eq_listed]
    refine (congrArg (· ++ _) hone).trans ?_
    rw [List.append_assoc, List.filter_cons]
    split <;> simp

/-- **What attaching entries to several properties of a class does.**  Behind the previous list of a
property come the specifications of its entries, in order, those of an entry that is a list one by
one.  A property without entries keeps its list, and stays away if there was none.  New properties
come behind the old ones, in the order of the mapping.  Classes that do not have the class among
their ancestors keep their schemas, and all classes keep their options.  Then more can be
attached. -/
theorem attachAll_effect (hr : Reached h s) (hnamed : Named s) (c : ClassRef)
    (hentries : ∀ e ∈ entries, IsName e.1)
    (hdistinct : entries.Pairwise fun a b ↦ Value.sameKey a.1 b.1 = false) :
    ∃ ps s' ps', ofClass s h c = .ok ps ∧ attachAll h c entries s = .ok s' ∧
      Reached h s' ∧ Named s' ∧ ofClass s' h c = .ok ps' ∧
      (∀ e ∈ entries, Attachment.listed e.2 ≠ [] → ps'.lookup e.1 =
        some ((ps.lookup e.1).getD [] ++ (Attachment.listed e.2).flatMap Attachment.heldBy)) ∧
      (∀ q, q.isKey = true →
        (∀ e ∈ entries, Value.sameKey e.1 q = true → Attachment.listed e.2 = []) →
        ps'.lookup q = ps.lookup q) ∧
      ps'.map Prod.fst = ps.map Prod.fst ++
        (entries.filter fun e ↦ !(Attachment.listed e.2).isEmpty &&
          (ps.lookup e.1).isNone).map Prod.fst ∧
      (∀ d, c ∉ h.ancestors d → ofClass s' h d = ofClass s h d) ∧
      ∀ d, options s' h d = options s h d := by
  have hbefore := hr.gathers hnamed c
  obtain ⟨s', hattach, hafter, hspares⟩ := hbefore.attachAll hentries
  have hps := ofClass_of_sound hr.sound h c
  have hps' := ofClass_of_sound hafter.reached.sound h c
  rw [hbefore.seen] at hps
  rw [hafter.seen] at hps'
  refine ⟨_, s', _, hps, hattach, hafter.reached, hafter.stored, hps', fun e he hsome ↦ ?_,
    fun q hq hnone ↦ ?_, ?_, fun d hd ↦ ?_, hspares.options_eq⟩
  · obtain ⟨v, hv⟩ := List.exists_mem_of_ne_nil _ hsome
    rw [← Attachment.entriesOf_eq_listed] at hv
    have hmem : ⟨c, e.1, Attachment.ofEntry v⟩ ∈ annotationsOf c entries :=
      List.mem_flatMap.mpr ⟨e, he, List.mem_map_of_mem hv⟩
    rw [Properties.lookup_gather_append_of_mem hafter.named (hentries e he).isKey hmem
      (hentries e he).same, flatMap_filter_annotationsOf hentries hdistinct he]
  · refine Properties.lookup_gather_append_of_forall hafter.named hq fun a ha ↦ ?_
    obtain ⟨e, he, ha⟩ := List.mem_flatMap.mp ha
    obtain ⟨v, hv, rfl⟩ := List.mem_map.mp ha
    refine Bool.eq_false_iff.mpr fun heq ↦ ?_
    rw [Attachment.entriesOf_eq_listed, hnone e he heq] at hv
    cases hv
  · exact map_fst_gather_annotationsOf hbefore.named hentries hdistinct
  · rw [ofClass_of_sound hafter.reached.sound, ofClass_of_sound hr.sound, hspares.seen d hd]

/-! ### One side of the diamond -/

namespace Diamond

/-- A new property with two entries, one without entries, and one that the base has. -/
def wanted : List Entry :=
  [(nick, .tuple [.attachment short, .list required]), (age, .list []), (name, .text "Email")]

theorem named_store : Named store := by
  have hname : IsName name := Properties.isName_text "name"
  have htop : store = (Store.set [] rulesKey top (Properties.toValue [(name, required)])).set
      rulesKey right (Properties.toValue [(name, required ++ short)]) := rfl
  intro b
  rw [htop, Store.stored_set, Store.stored_set]
  split
  · exact List.forall_mem_singleton.mpr hname
  · split
    · exact List.forall_mem_singleton.mpr hname
    · exact nofun

theorem isName_wanted : ∀ e ∈ wanted, IsName e.1 := by
  simp [wanted, nick, age, name, Properties.isName_text]

theorem pairwise_wanted : wanted.Pairwise fun a b ↦ Value.sameKey a.1 b.1 = false := by
  simp [wanted, nick, age, name, Value.sameKey, Value.equals]

/-- The side keeps what the base asks of the name, and sees the nickname behind it; the other side
sees what it saw. -/
theorem attachAll_effect_left : Reached hierarchy store ∧ Named store ∧ (∀ e ∈ wanted, IsName e.1) ∧
    (wanted.Pairwise fun a b ↦ Value.sameKey a.1 b.1 = false) ∧
    ∃ s' ps', attachAll hierarchy left wanted store = .ok s' ∧
      ofClass s' hierarchy left = .ok ps' ∧
      ps'.lookup name = some (required ++ [.text "Email"]) ∧
      ps'.lookup nick = some (short ++ required) ∧ ps'.lookup age = none ∧
      ps'.map Prod.fst = [name, nick] ∧
      ofClass s' hierarchy right = ofClass store hierarchy right := by
  obtain ⟨ps, s', ps', hps, hattach, -, -, hps', hlists, hothers, horder, hspared, -⟩ :=
    attachAll_effect reached named_store left isName_wanted pairwise_wanted
  obtain rfl : [(name, required)] = ps := Except.ok.inj hps
  refine ⟨reached, named_store, isName_wanted, pairwise_wanted, s', ps', hattach, hps', ?_, ?_, ?_,
    ?_, ?_⟩
  · refine (hlists (name, .text "Email") (by simp [wanted]) (List.cons_ne_nil _ _)).trans ?_
    with_unfolding_all rfl
  · refine (hlists (nick, .tuple [.attachment short, .list required]) List.mem_cons_self
      (List.cons_ne_nil _ _)).trans ?_
    with_unfolding_all rfl
  · rw [hothers age rfl]
    · with_unfolding_all rfl
    · simp [wanted, nick, age, name, Value.sameKey, Value.equals, Attachment.listed]
  · rw [horder]
    with_unfolding_all rfl
  · exact hspared right (by decide)

end Diamond

end Schema
end Rulebook
