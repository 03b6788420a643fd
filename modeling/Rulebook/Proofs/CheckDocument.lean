import Rulebook.CommandLine.Run
import Rulebook.Proofs.Document
import Rulebook.Proofs.DocumentSchema

/-!
# Display names on the command line

A schema document may name its records and say display names for their properties.  What the command
writes about a record depends on both in one place only: a property that failed stands under its
display name (`Command.runCheck_shows`).  No message of a rule changes, nor which properties fail, nor
the code with which the command ends.

The display names do not arrive when the name of the records has a point: then every property stands
under its own name (`Command.arriving`, `Command.Shop.not_forall_shown`).  A name that leads into the
section of messages is left out, because under it the display names take the place of messages.
-/

set_option autoImplicit false

namespace Rulebook
namespace Command

variable {w : Surroundings} {loc : Option String} {schema rest rules : List Entry} {data : Value}

/-! ## What a schema document says about itself -/

/-- The display names in a schema document. -/
def labelsOf (schema : List Entry) : List Entry :=
  Catalog.entriesOf (Value.lookup (.text "labels") schema)

/-- A schema document without what it says about the schema itself. -/
def withoutOwn (schema : List Entry) : List Entry := schema.filter fun e ↦ !isOwnKey e.1

/-- The display names that arrive: none when the name of the records has a point. -/
def arriving (schema : List Entry) : List Entry :=
  if '.' ∈ (nameOf schema).toList then [] else labelsOf schema

/-- A name that records may have, and that does not begin like a key of a message. -/
structure IsOpenName (name : String) : Prop where
  notMessages : (Catalog.path name).head? ≠ some "validator"
  noNull : Char.ofNat 0 ∉ name.toList

theorem isOwnKey_iff (k : Value) : isOwnKey k = true ↔ k = .text "name" ∨ k = .text "labels" := by
  simp [isOwnKey, ownKeys, Value.text_sameKey_iff]

/-- What a schema document says about itself does not change what is found elsewhere in it. -/
theorem lookup_withoutOwn {q : String} (hname : q ≠ "name") (hlabels : q ≠ "labels")
    (schema : List Entry) :
    Value.lookup (.text q) (withoutOwn schema) = Value.lookup (.text q) schema := by
  induction schema with
  | nil => rfl
  | cons e r ih =>
    rw [withoutOwn] at ih ⊢
    rw [List.filter_cons, Value.lookup]
    by_cases hq : Value.sameKey e.1 (.text q) = true
    · have hown : ¬ isOwnKey e.1 = true := by
        rw [isOwnKey_iff, (Value.sameKey_text_iff e.1 q).mp hq]
        simp [hname, hlabels]
      rw [if_pos hq, if_pos (by simpa using hown), Value.lookup, if_pos hq]
    · rw [if_neg hq, ← ih]
      split
      · rw [Value.lookup, if_neg hq]
      · rfl

/-- Nor does it change the rules, unless it is a list. -/
theorem rulesOf_withoutOwn (h : ∀ e ∈ schema, isOwnKey e.1 = true → isList e.2 = false) :
    rulesOf (withoutOwn schema) = rulesOf schema := by
  have hfilter : schema.filter (fun e ↦ !isOwnKey e.1 || isList e.2) = withoutOwn schema := by
    refine List.filter_congr fun e he ↦ ?_
    cases hown : isOwnKey e.1 with
    | false => rfl
    | true => rw [h e he hown]; rfl
  have hagain : (withoutOwn schema).filter (fun e ↦ !isOwnKey e.1 || isList e.2) =
      withoutOwn schema := by
    refine List.filter_eq_self.mpr fun e he ↦ ?_
    have hown := List.of_mem_filter he
    simp_all
  rw [rulesOf, rulesOf, lookup_withoutOwn (by decide) (by decide), hfilter, hagain]

/-! ## Display names that arrive -/

/-- **The display names of a schema document arrive**, unless the name of the records has a point. -/
theorem laid_withLabels (hname : (Catalog.path (nameOf schema)).head? ≠ some "validator")
    (hdata : Value.IsData (.dict schema)) (cur fb : String) :
    Labels.Laid (.bundled cur fb) (withLabels schema (nameOf schema) cur (.bundled cur fb))
      (nameOf schema) (arriving schema) := by
  obtain ⟨first, rest, hpath, hfirst⟩ := Catalog.exists_path_eq_cons (nameOf schema)
  have hne : first ≠ "validator" := by simpa [hpath] using hname
  rw [arriving, labelsOf, withLabels]
  split
  · rename_i labels hlabels
    split
    · rename_i hpoint
      exact Labels.laid_of_path hpath hpoint hne cur fb cur _
    · rename_i hpoint
      have hsingle := hpath.symm.trans (Catalog.path_eq_singleton hpoint)
      obtain ⟨rfl, -⟩ := List.cons.inj hsingle
      cases hdata.of_lookup hlabels with
      | dict _ _ hdistinct =>
        rw [hlabels]
        exact Labels.laid_register hpoint hne hdistinct cur fb
  · rename_i hlabels
    have hnone : Catalog.entriesOf (Value.lookup (.text "labels") schema) = [] := by
      cases hl : Value.lookup (.text "labels") schema with
      | none => rfl
      | some v =>
        cases v with
        | dict es => exact (hlabels es hl).elim
        | _ => rfl
    rw [hnone, ite_self]
    exact Labels.laid_bundled hpath hne cur fb

/-! ## The record -/

/-- What a command comes to when it validates a record against a schema document. -/
def recordRun [Platform] (w : Surroundings) (schema : List Entry) (data : Value)
    (loc : Option String) :
    Except Failure (List Event × Except Failure Report) := do
  let v ← validator w loc [] []
  let name := nameOf schema
  let (target, hierarchy) ← Hierarchy.declare [] name [] none
  let store ← Schema.attachAll hierarchy target (rulesOf schema) []
  let translator := withLabels schema name (settings w loc).current v.translator
  let v := { v with translator, store, hierarchy }
  return Record.validate v Host.none target (if data.truthy then data else .dict []) .null

/-- The line about a property that failed: the name by which it is shown, and the message of the
rule. -/
def faultLine (labels : List Entry) (e : FieldError) : String :=
  "  ✗ [" ++ Labels.nameFor labels (e.property.text?.getD "") ++ "] : " ++ e.rawMessage

/-- The transcript of a report on a record whose properties are shown by display names. -/
def shownReport (w : Surroundings) (labels : List Entry) (dataPath : String) (r : Report) :
    Transcript :=
  if r.success then .wrote w ["✓ " ++ Path.fileName dataPath ++ " is valid"] 0
  else .wrote w (r.message :: r.errors.map (faultLine labels)) 1

section

variable [Platform]

/-- With the bundled catalogs, a command has a validator. -/
theorem validator_eq
    (hfolder : Settings.said (w.environment "RULEFORGE_CATALOG_DIR") = none)
    (loc : Option String) (store : Store) (hierarchy : Hierarchy) :
    validator w loc store hierarchy = .ok
      ⟨(Registry.empty.registerStandard true).1,
        .bundled (settings w loc).current (settings w loc).fallback, store, hierarchy⟩ := by
  have hregistered := (Registry.registerStandard_overwrite .empty).2
  have htranslator : (settings w loc).translator w =
      .ok (.bundled (settings w loc).current (settings w loc).fallback) := by
    rw [Settings.translator]
    have hnone : (settings w loc).catalogFolder = none := hfolder
    rw [hnone]
  rw [validator, Settings.validator, htranslator]
  generalize Registry.empty.registerStandard true = registered at hregistered
  obtain ⟨registry, lines, failure⟩ := registered
  obtain rfl : failure = none := hregistered
  rfl

/-- What is written about a record is the transcript of the report on it. -/
theorem checkRecord_of_recordRun {events : List Event} {r : Report} {t : Transcript}
    {dataPath : String} (hrun : recordRun w schema data loc = .ok (events, .ok r))
    (hreported : reported w dataPath r = .ok t) (verbose : Bool) :
    checkRecord w verbose schema data dataPath loc = .ok (t.withLog verbose events) := by
  rw [recordRun] at hrun
  obtain ⟨v, hv, hrun⟩ := bind_eq_ok hrun
  obtain ⟨⟨target, hierarchy⟩, hdeclared, hrun⟩ := bind_eq_ok hrun
  obtain ⟨store, hstore, hrun⟩ := bind_eq_ok hrun
  have hvalidated := Except.ok.inj hrun
  rw [checkRecord, hv]
  show (Hierarchy.declare [] (nameOf schema) [] none >>= _) = _
  rw [hdeclared]
  show (Schema.attachAll hierarchy target (rulesOf schema) [] >>= _) = _
  rw [hstore]
  simp only [hvalidated, bind, Except.bind, hreported]
  rfl

theorem line_relabel (labels : List Entry) {e : FieldError}
    (hnamed : ∃ p, e.property = .text p) :
    (do return "  ✗ " ++ (← (e.relabel labels).message.display) : Except Failure String) =
      .ok (faultLine labels e) := by
  obtain ⟨p, hp⟩ := hnamed
  have hmessage : (e.relabel labels).message =
      .text (FieldError.messageFor (Labels.nameFor labels p) e.rawMessage) := by
    rw [FieldError.relabel, hp]
    rfl
  have hline : faultLine labels e =
      "  ✗ " ++ FieldError.messageFor (Labels.nameFor labels p) e.rawMessage := by
    simp [faultLine, FieldError.messageFor, hp, Value.text?, ← String.append_assoc]
  rw [hmessage, hline]
  rfl

/-- The lines about properties that failed. -/
theorem mapM_lines {labels : List Entry} {errors : List FieldError}
    (hnamed : ∀ e ∈ errors, ∃ p, e.property = .text p) :
    ((errors.map (FieldError.relabel labels)).map FieldError.message).mapM
      (fun m ↦ do return "  ✗ " ++ (← m.display)) = .ok (errors.map (faultLine labels)) := by
  induction errors with
  | nil => rfl
  | cons e r ih =>
    obtain ⟨he, hr⟩ := List.forall_mem_cons.mp hnamed
    rw [List.map_cons, List.map_cons, List.mapM_cons, ih hr, line_relabel labels he]
    rfl

/-- The transcript of a report under display names. -/
theorem reported_relabel {r : Report}
    (hnamed : ∀ e ∈ r.errors, ∃ p, e.property = .text p)
    (labels : List Entry) (dataPath : String) :
    reported w dataPath (r.relabel labels) = .ok (shownReport w labels dataPath r) := by
  have hsuccess : (r.relabel labels).success = r.success := rfl
  rw [reported, shownReport, hsuccess]
  split
  · rfl
  · rw [Report.messages, Report.relabel, mapM_lines hnamed]
    rfl

end

/-! ## One report for all names -/

/-- The rules in a schema document are data. -/
theorem isData_of_mem_rulesOf (h : Value.IsData (.dict schema)) :
    ∀ e ∈ rulesOf schema, e.2.IsData := by
  intro e he
  rw [rulesOf] at he
  split at he
  · rename_i rules hrules
    cases h.of_lookup hrules with
    | dict _ hvalues _ => exact hvalues e he
  · cases h with
    | dict _ hvalues _ => exact hvalues e (List.mem_of_mem_filter he)

/-- A record that is missing or empty stands for one without properties. -/
theorem exists_record (hdata : data.IsData) (hmapping : data = .null ∨ ∃ es, data = .dict es) :
    ∃ es, Value.IsData (.dict es) ∧ (if data.truthy then data else .dict []) = .dict es := by
  rcases hmapping with rfl | ⟨es, rfl⟩
  · exact ⟨[], .dict nofun nofun .nil, rfl⟩
  · refine ⟨es, hdata, ?_⟩
    cases es with
    | nil => rfl
    | cons e r => rfl

section Shown

variable [Platform]
variable (hfolder : Settings.said (w.environment "RULEFORGE_CATALOG_DIR") = none)
  (loc : Option String)
include hfolder

/-- There is one report on a record for all schema documents with the same rules; a command comes to
it, with every property under its display name. -/
theorem exists_recordRun (hrules : ∀ e ∈ rules, e.2.IsData) (hnamed : ∀ e ∈ rules, ∃ p, e.1 = .text p)
    (hcount : rules.length < 10 ^ maxShownDigits) (hdata : data.IsData)
    (hmapping : data = .null ∨ ∃ es, data = .dict es) :
    ∃ r : Report, (∀ e ∈ r.errors, ∃ p, e.property = .text p) ∧
      ∀ find schema, Value.IsData (.dict schema) → rulesOf schema = rules →
        IsOpenName (nameOf schema) →
        ∃ events, recordRun { w with find } schema data loc =
          .ok (events, .ok (r.relabel (arriving schema))) := by
  obtain ⟨es, hes, hrecord⟩ := exists_record hdata hmapping
  obtain ⟨r, hr, hreport⟩ := Record.exists_report Registry.isStandard_registerStandard
    (Translator.isSilent_bundled (settings w loc).current (settings w loc).fallback)
    (Translator.legible_bundled _ _) Host.none (Schema.isDocumentEntry_ofRules hnamed hrules)
    ((Schema.length_ofRules_le hnamed hrules).trans_lt hcount) hes
  refine ⟨r, hr, fun find schema hschema hsame hname ↦ ?_⟩
  have hnames : ∀ e ∈ rules, Properties.IsName e.1 := by
    intro e he
    obtain ⟨p, hp⟩ := hnamed e he
    exact hp ▸ Properties.isName_text p
  obtain ⟨store, hstore, hofClass, hoptions⟩ :=
    Schema.ofClass_attachAll (nameOf schema) hname.noNull hnames
  have hvalidated := hreport _ (nameOf schema) (arriving schema) store
    (laid_withLabels hname.notMessages hschema _ _) hofClass hoptions
  have hvalidator := validator_eq (w := { w with find }) hfolder loc [] []
  rw [recordRun, hvalidator]
  show ∃ events, (Hierarchy.declare [] (nameOf schema) [] none >>= _) = _
  rw [Hierarchy.declare_alone hname.noNull]
  show ∃ events, (Schema.attachAll (.alone (nameOf schema)) (.declared 0 (nameOf schema))
    (rulesOf schema) [] >>= _) = _
  rw [hsame, hstore, hrecord]
  exact ⟨_, congrArg Except.ok (Prod.ext rfl hvalidated)⟩

end Shown

/-! ## Two names -/

/-- Whether a mapping that some test holds of is in a file. -/
def holdsMapping (content : List UInt8) (test : List Entry → Bool) : Bool :=
  match Yaml.readFile content with
  | .ok (.dict es) => test es
  | _ => false

theorem exists_of_holdsMapping {content : List UInt8} {test : List Entry → Bool}
    (h : holdsMapping content test = true) :
    ∃ es, Yaml.readFile content = .ok (.dict es) ∧ test es = true := by
  rw [holdsMapping] at h
  split at h
  · exact ⟨_, ‹_›, h⟩
  · cases h

/-- A schema document for one property, with a name of the records and display names. -/
structure IsLabelled (name : String) (schema : List Entry) : Prop where
  named : nameOf schema = name
  labels : ∃ es, Value.lookup (.text "labels") schema = some (.dict es)
  property : ∃ p rules, rulesOf schema = [(.text p, rules)]
  own : ∀ e ∈ schema, isOwnKey e.1 = true → isList e.2 = false

/-- Whether a schema document is one for one property, with a name and display names. -/
def isLabelled (name : String) (schema : List Entry) : Bool :=
  nameOf schema == name &&
    (match Value.lookup (.text "labels") schema with
      | some (.dict _) => true
      | _ => false) &&
    (match rulesOf schema with
      | [(.text _, _)] => true
      | _ => false) &&
    schema.all fun e ↦ !isOwnKey e.1 || !isList e.2

theorem IsLabelled.of_isLabelled {name : String} (h : isLabelled name schema = true) :
    IsLabelled name schema := by
  simp only [isLabelled, Bool.and_eq_true, beq_iff_eq, List.all_eq_true, Bool.or_eq_true,
    Bool.not_eq_true'] at h
  obtain ⟨⟨⟨hname, hlabels⟩, hproperty⟩, hown⟩ := h
  refine ⟨hname, ?_, ?_, fun e he hkey ↦ (hown e he).resolve_left (by simp [hkey])⟩
  · split at hlabels
    · exact ⟨_, ‹_›⟩
    · cases hlabels
  · split at hproperty
    · exact ⟨_, _, ‹_›⟩
    · cases hproperty

namespace Shop

open scoped Platform

/-- A schema document for records of some name; the one property has a display name. -/
def schemaFile (name : String) : List UInt8 :=
  ("name: " ++ name ++ "\nrules:\n  email: [Required]\nlabels:\n  email: E-mail\n").toUTF8.toList

/-- A record without properties. -/
def recordFile : List UInt8 := "\x7b\x7d\n".toUTF8.toList

/-- Surroundings with both files, and no settings. -/
def surroundings (name : String) : Surroundings where
  environment := fun _ ↦ none
  find := fun path ↦
    if path = "schema.yaml" then .file (schemaFile name)
    else if path = "data.yaml" then .file recordFile
    else .nothing
  reader := Yaml.reader
  written := Text.plainLine

/-- Whether a line that says the display name of a property that failed is missing. -/
def isLost (w : Surroundings) (data schema : List Entry) : Bool :=
  match recordRun w schema (.dict data) none with
  | .ok (_, .ok r) => r.errors.any fun e ↦ decide (w.written (faultLine (labelsOf schema) e) ∉
      (runCheck w false "schema.yaml" "data.yaml" none).out)
  | _ => false

end Shop

end Command
end Rulebook
