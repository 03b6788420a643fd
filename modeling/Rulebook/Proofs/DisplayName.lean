import Rulebook.Proofs.Overlay
import Rulebook.Record.Labels

/-!
# Display names for records of one kind

Display names for the properties of records of one kind are laid over the catalog of the locale in
use, as a section that is named like the records (`Labels.Laid`).  That the messages stay what they
were and every property is shown by its display name depends on the name of the records:

* It is so for a name without a point other than that of the section of messages
  (`Labels.laid_register`), and when there are no display names (`Labels.laid_bundled`).
* Under a name with a point the display names are not found, and every property is shown by its own
  name (`Labels.laid_of_path`).
-/

set_option autoImplicit false

namespace Rulebook

/-- The hierarchy of a class that is declared alone. -/
def Hierarchy.alone (name : String) : Hierarchy :=
  [(.declared 0 name, ⟨[.declared 0 name, objectClass], none⟩)]

theorem Hierarchy.ancestors_alone (name : String) :
    (alone name).ancestors (.declared 0 name) = [.declared 0 name, objectClass] := by
  simp [ancestors, alone]

namespace Labels

variable {t : Translator} {name : String} {labels : List Entry} {p : String}

/-! ## Names that are shown -/

/-- The name by which a property is shown: its display name, if it has one that is not blank. -/
def nameFor (labels : List Entry) (p : String) : String :=
  match Value.lookup (.text p) labels with
  | some (.text s) => if Text.isBlankText s then p else s
  | _ => p

/-- Names that show properties as labels say. -/
def ShownBy (labels names : List Entry) : Prop :=
  ∀ p, shown names (.text p) = .text (nameFor labels p)

theorem shown_text (labels : List Entry) (p : String) :
    shown labels (.text p) = .text (nameFor labels p) := by
  rw [shown, nameFor]
  cases Value.lookup (.text p) labels with
  | none => rfl
  | some v =>
    cases v with
    | text s => cases hs : Text.isBlankText s <;> simp [isLabel, hs]
    | _ => rfl

/-- Only what can be a display name matters. -/
theorem nameFor_congr {names : List Entry}
    (h : Value.lookup (.text p) names = (Value.lookup (.text p) labels).filter isLabel) :
    nameFor names p = nameFor labels p := by
  rw [nameFor, nameFor, h]
  cases Value.lookup (.text p) labels with
  | none => rfl
  | some v =>
    rw [Option.filter_some]
    cases v with
    | text s => cases hs : Text.isBlankText s <;> simp [isLabel, hs]
    | _ => rfl

/-- To lay display names over a catalog keeps them, and makes nothing else a display name. -/
theorem filter_isLabel_overlayValue (old v : Option Value) :
    (v.map (Catalog.overlayValue old)).filter isLabel = v.filter isLabel := by
  cases v with
  | none => rfl
  | some v => cases v <;> rfl

/-- The names for a class that is declared alone are those in its section. -/
theorem ofTarget_alone (t : Translator) (name : String) :
    ofTarget t (.alone name) (.declared 0 name) none =
      .ok (Value.ofEntries ((t.sectionAt name none).filter fun e ↦ isLabel e.2)) := by
  have hkey : (Hierarchy.alone name).sectionKey (.declared 0 name) = .text name := by
    simp [Hierarchy.sectionKey, Hierarchy.alone, ClassRef.name]
  have hself : ofClass t (.alone name) none (.declared 0 name) =
      .ok ((t.sectionAt name none).filter fun e ↦ isLabel e.2) := by
    rw [ofClass, hkey]
  rw [ofTarget, Hierarchy.ancestors_alone]
  simp only [List.reverse_cons, List.reverse_nil, List.nil_append, List.cons_append]
  rw [List.filter_cons_of_neg (by simp), List.filter_cons_of_pos (by simp [objectClass])]
  simp only [List.filter_nil, List.foldlM_cons, List.foldlM_nil, hself]
  rfl

/-! ## Display names laid over a catalog -/

/-- A translator with the messages of another one that shows the properties of records of one kind by
display names. -/
structure Laid (t u : Translator) (name : String) (labels : List Entry) : Prop where
  messages : ∀ message,
    u.lookup ("validator." ++ message) none = t.lookup ("validator." ++ message) none
  shown : ∃ names, ofTarget u (.alone name) (.declared 0 name) none = .ok names ∧
    ShownBy labels names

theorem path_message (message : String) :
    Catalog.path ("validator." ++ message) = "validator" :: Catalog.path message := by
  have hpoint : "validator." = "validator" ++ "." := by decide
  rw [hpoint, Catalog.path_append (by decide)]

/-- A section of another name changes no message. -/
theorem lookup_message_register (hname : name ≠ "validator") (t : Translator) (loc : String)
    (v : Value) (message : String) :
    (t.register loc [(.text name, v)]).lookup ("validator." ++ message) none =
      t.lookup ("validator." ++ message) none :=
  Translator.lookup_register_of_ne (path_message message) hname.symm t loc v none

/-- Without a section there are no display names. -/
theorem shown_of_sectionAt_eq_nil (h : t.sectionAt name none = []) :
    ∃ names, ofTarget t (.alone name) (.declared 0 name) none = .ok names ∧ ShownBy [] names := by
  refine ⟨[], ?_, fun p ↦ shown_text [] p⟩
  rw [ofTarget_alone, h]
  rfl

theorem sectionAt_bundled {first : String} {rest : List String}
    (hpath : Catalog.path name = first :: rest) (hfirst : first ≠ "validator") (cur fb : String) :
    (Translator.bundled cur fb).sectionAt name none = [] := by
  rw [Translator.sectionAt, Translator.lookup_bundled_of_path hpath hfirst]
  rfl

/-- **Display names arrive** when the name of the records has no point and is not that of the section
of messages. -/
theorem laid_register (hpoint : '.' ∉ name.toList) (hname : name ≠ "validator")
    (hlabels : Value.Distinct labels) (cur fb : String) :
    Laid (.bundled cur fb) ((Translator.bundled cur fb).register cur [(.text name, .dict labels)])
      name labels := by
  refine ⟨lookup_message_register hname _ _ _, ?_⟩
  have hsection : ((Translator.bundled cur fb).register cur
      [(.text name, .dict labels)]).sectionAt name none = Catalog.overlay [] labels :=
    Translator.sectionAt_register hpoint (Translator.lookup_bundled cur fb cur hname) labels
  have hdistinct : Value.Distinct (Catalog.overlay [] labels) := Catalog.distinct_overlay .nil labels
  refine ⟨_, ofTarget_alone _ _, fun p ↦ ?_⟩
  rw [hsection, shown_text, nameFor_congr]
  rw [Value.lookup_ofEntries (hdistinct.filter _), Value.lookup_filter hdistinct,
    Catalog.lookup_overlay hlabels, Value.lookup, Option.or_none, filter_isLabel_overlayValue]

/-- Without display names every property is shown by its own name. -/
theorem laid_bundled {first : String} {rest : List String}
    (hpath : Catalog.path name = first :: rest) (hfirst : first ≠ "validator") (cur fb : String) :
    Laid (.bundled cur fb) (.bundled cur fb) name [] :=
  ⟨fun _ ↦ rfl, shown_of_sectionAt_eq_nil (sectionAt_bundled hpath hfirst cur fb)⟩

/-- **Display names are lost** when the name of the records has a point. -/
theorem laid_of_path {first : String} {rest : List String}
    (hpath : Catalog.path name = first :: rest) (hpoint : '.' ∈ name.toList)
    (hfirst : first ≠ "validator") (cur fb loc : String) (v : Value) :
    Laid (.bundled cur fb) ((Translator.bundled cur fb).register loc [(.text name, v)]) name [] := by
  have hname : name ≠ "validator" := by
    rintro rfl
    exact absurd hpoint (by decide)
  refine ⟨lookup_message_register hname _ _ _, shown_of_sectionAt_eq_nil ?_⟩
  rw [Translator.sectionAt_register_of_path hpoint, sectionAt_bundled hpath hfirst]

end Labels
end Rulebook
