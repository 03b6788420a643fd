import Rulebook.Proofs.Attaching
import Rulebook.Proofs.Relabel
import Mathlib.Data.List.Perm.Subperm

/-!
# The schema of a document

The entries of a document are attached to a class that is declared for it alone.  The schema of that
class then is what the entries gather into (`Schema.ofClass_attachAll`); it does not depend on the
class.  There is at most one property for each entry, and its rules are data.
-/

set_option autoImplicit false

namespace Rulebook

/-! ## Classes that are declared alone -/

namespace Hierarchy

/-- A class whose name has no character with the code zero can be declared. -/
theorem declare_alone {name : String} (h : Char.ofNat 0 ∉ name.toList) :
    declare [] name [] none = .ok (.declared 0 name, alone name) := by
  rw [declare, if_neg (by simpa using h)]
  rfl

end Hierarchy

namespace Schema

open Properties (IsName gather)

variable {log : List Annotation} {p : Value} {rules : List Entry}

/-! ## What is attached -/

/-- The schema of a document. -/
def ofRules (rules : List Entry) : Properties := gather (annotationsOf objectClass rules)

/-- What annotations gather into does not depend on the class. -/
theorem gather_annotationsOf (c : ClassRef) (rules : List Entry) :
    gather (annotationsOf c rules) = ofRules rules := by
  have hmap : annotationsOf c rules =
      (annotationsOf objectClass rules).map fun a ↦ { a with cls := c } := by
    simp [annotationsOf, annotationsFor, List.map_flatMap, Function.comp_def]
  rw [ofRules, hmap, gather, List.foldl_map, gather]

/-- **The schema of a class that is declared alone is that of the document**, whatever its name. -/
theorem ofClass_attachAll [Platform] (name : String) (hname : Char.ofNat 0 ∉ name.toList)
    (hrules : ∀ e ∈ rules, IsName e.1) :
    ∃ s, attachAll (.alone name) (.declared 0 name) rules [] = .ok s ∧
      ofClass s (.alone name) (.declared 0 name) = .ok (ofRules rules) ∧
      Options.forClass s (.alone name) (.declared 0 name) .null = .ok .none := by
  have hreached : Reached (.alone name) [] :=
    .declare .start (fun _ hb ↦ absurd hb List.not_mem_nil) (Hierarchy.declare_alone hname)
  have hnothing : Store.seen [] rulesKey ((Hierarchy.alone name).ancestors (.declared 0 name)) =
      [] := by
    rw [Hierarchy.ancestors_alone]
    rfl
  have hstart : Gathers (.alone name) (.declared 0 name) [] [] :=
    ⟨hreached, named_nil, fun _ ha ↦ absurd ha List.not_mem_nil, hnothing⟩
  obtain ⟨s, hs, hafter, hspares⟩ := hstart.attachAll hrules
  refine ⟨s, hs, ?_, ?_⟩
  · rw [ofClass_of_sound hafter.reached.sound, hafter.seen, List.nil_append, gather_annotationsOf]
  · rw [Options.forClass, hspares.options_eq, options, Hierarchy.ancestors_alone]
    rfl

/-! ## What the schema holds -/

theorem forall_mem_put {P : Value → Prop} {R : List Value → Prop} {ps : Properties} {l : List Value}
    (hps : ∀ e ∈ ps, P e.1 ∧ R e.2) (hp : P p) (hl : R l) :
    ∀ e ∈ ps.put p l, P e.1 ∧ R e.2 := by
  induction ps with
  | nil => exact List.forall_mem_singleton.mpr ⟨hp, hl⟩
  | cons d r ih =>
    obtain ⟨hd, hr⟩ := List.forall_mem_cons.mp hps
    rw [Properties.put]
    split
    · exact List.forall_mem_cons.mpr ⟨⟨hd.1, hl⟩, hr⟩
    · exact List.forall_mem_cons.mpr ⟨hd, ih hr⟩

theorem getD_lookup_of_forall {R : List Value → Prop} {ps : Properties} (hps : ∀ e ∈ ps, R e.2)
    (hnil : R []) (q : Value) : R ((ps.lookup q).getD []) := by
  induction ps with
  | nil => exact hnil
  | cons d r ih =>
    obtain ⟨hd, hr⟩ := List.forall_mem_cons.mp hps
    rw [Properties.lookup]
    split
    · exact hd
    · exact ih hr

/-- What holds of all properties and of all that is attached to them holds of what is gathered. -/
theorem forall_mem_gather {P Q : Value → Prop}
    (hlog : ∀ a ∈ log, P a.property ∧ ∀ v ∈ a.specs, Q v) :
    ∀ e ∈ gather log, P e.1 ∧ ∀ v ∈ e.2, Q v := by
  induction log using List.reverseRecOn with
  | nil => exact nofun
  | append_singleton log a ih =>
    obtain ⟨hlog, ha⟩ := List.forall_mem_append.mp hlog
    obtain ⟨hp, hspecs⟩ := ha a List.mem_cons_self
    have hbefore : ∀ v ∈ ((gather log).lookup a.property).getD [], Q v :=
      getD_lookup_of_forall (R := fun l ↦ ∀ v ∈ l, Q v) (fun e he ↦ (ih hlog e he).2) nofun _
    rw [Properties.gather_concat]
    exact forall_mem_put (R := fun l ↦ ∀ v ∈ l, Q v) (ih hlog) hp
      (List.forall_mem_append.mpr ⟨hbefore, hspecs⟩)

/-- The items of a list or tuple, or else the value itself. -/
theorem isData_items {v : Value} (hv : v.IsData) : ∀ x ∈ (v.items?).getD [v], x.IsData := by
  cases hitems : v.items? with
  | none => exact List.forall_mem_singleton.mpr hv
  | some xs => exact fun x hx ↦ hv.of_mem_items hitems hx

theorem isData_ofEntry {v : Value} (hv : v.IsData) : ∀ x ∈ Attachment.ofEntry v, x.IsData := by
  have hspecs : Attachment.ofEntry v = (v.items?).getD [v] := by
    cases hv <;> simp [Attachment.ofEntry, Attachment.ofSpecs]
  exact hspecs ▸ isData_items hv

/-- The properties of a schema from a document are those of its entries, and their rules are data. -/
theorem mem_ofRules (hdata : ∀ e ∈ rules, e.2.IsData) :
    ∀ e ∈ ofRules rules, e.1 ∈ rules.map Prod.fst ∧ ∀ v ∈ e.2, v.IsData := by
  refine forall_mem_gather (P := fun p ↦ p ∈ rules.map Prod.fst) fun a ha ↦ ?_
  obtain ⟨e, he, ha⟩ := List.mem_flatMap.mp ha
  obtain ⟨v, hv, rfl⟩ := List.mem_map.mp ha
  exact ⟨List.mem_map_of_mem he, isData_ofEntry (isData_items (hdata e he) v hv)⟩

theorem isDocumentEntry_ofRules (hnamed : ∀ e ∈ rules, ∃ p, e.1 = .text p)
    (hdata : ∀ e ∈ rules, e.2.IsData) : ∀ e ∈ ofRules rules, Record.IsDocumentEntry e := by
  intro e he
  obtain ⟨hmem, hrules⟩ := mem_ofRules hdata e he
  obtain ⟨d, hd, heq⟩ := List.mem_map.mp hmem
  exact ⟨heq ▸ hnamed d hd, hrules⟩

/-- There is at most one property for each entry. -/
theorem length_ofRules_le (hnamed : ∀ e ∈ rules, ∃ p, e.1 = .text p)
    (hdata : ∀ e ∈ rules, e.2.IsData) : (ofRules rules).length ≤ rules.length := by
  have hnames : ∀ a ∈ annotationsOf objectClass rules, IsName a.property := by
    intro a ha
    obtain ⟨e, he, ha⟩ := List.mem_flatMap.mp ha
    obtain ⟨v, -, rfl⟩ := List.mem_map.mp ha
    obtain ⟨p, hp⟩ := hnamed e he
    exact hp ▸ Properties.isName_text p
  have hnodup : ((ofRules rules).map Prod.fst).Nodup := by
    refine List.pairwise_map.mpr ((Properties.isMapping_gather hnames).distinct.imp_of_mem ?_)
    intro a b ha hb hne heq
    have hsame := (Properties.isName_of_mem_gather hnames b hb).same
    rw [heq, hsame] at hne
    cases hne
  have hsubset : (ofRules rules).map Prod.fst ⊆ rules.map Prod.fst := by
    intro p hp
    obtain ⟨e, he, rfl⟩ := List.mem_map.mp hp
    exact (mem_ofRules hdata e he).1
  have hlength := (List.Nodup.subperm hnodup hsubset).length_le
  rwa [List.length_map, List.length_map] at hlength

end Schema
end Rulebook
