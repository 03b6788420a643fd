import Rulebook.Proofs.DisplayName
import Rulebook.Proofs.DocumentRequest
import Rulebook.Proofs.Isolation

/-!
# The report on a record under other display names

A record of a document is validated against standard rules.  Whatever the class is called, and whatever
display names its properties have, the report on the record is one and the same
(`Record.exists_report`), except that the message of a failed property begins with the display name of
the property (`Report.relabel`).

Validating one property comes to the same for a display name and for the own name of the property
(`Record.result_relabelled`), because the request is refused for the same reason.
-/

set_option autoImplicit false

namespace Rulebook

/-! ## Counts -/

/-- The form that goes with an integer is always known. -/
theorem Translator.succeeds_pluralForm_int (es : List Entry) (n : Int) :
    Succeeds (pluralForm es (.int n)) := by
  have hequals : ∀ k : Int, ∃ b, Value.equals (.int n) (.int k) = .ok b := fun k ↦ by
    simp [Value.equals, Value.isNumeric, Value.equalNumbers, Value.isSignalling]
  obtain ⟨isZero, hzero⟩ := hequals 0
  obtain ⟨isOne, hone⟩ := hequals 1
  rw [pluralForm, hzero, hone]
  split
  · exact succeeds_ok _
  · cases isZero <;> cases isOne
    all_goals
      simp only [bind, Except.bind, if_true, if_false, Bool.false_eq_true]
      repeat' split
      all_goals exact succeeds_ok _

/-! ## Reports under display names -/

namespace FieldError

/-- The message with the name under which the property is shown. -/
def messageFor (name : String) (raw : String) : String := "[" ++ name ++ "] : " ++ raw

/-- A failed property under another name. -/
def shownAs (name : String) (e : FieldError) : FieldError :=
  { e with message := .text (messageFor name e.rawMessage) }

/-- A failed property under its display name. -/
def relabel (labels : List Entry) (e : FieldError) : FieldError :=
  match e.property with
  | .text p => e.shownAs (Labels.nameFor labels p)
  | _ => e

end FieldError

/-- The report on a record with some faults, with a summary if there are any. -/
def Report.ofErrors (data : Value) (errors : List FieldError) (summary : String) : Report :=
  ⟨errors.isEmpty, errors, data, if errors.isEmpty then "" else summary⟩

/-- A report in which every property stands under its display name. -/
def Report.relabel (labels : List Entry) (r : Report) : Report :=
  { r with errors := r.errors.map (FieldError.relabel labels) }

namespace Record

variable {c : PropertyCheck} {l : String}

/-! ## One property -/

/-- Without a builder, a property that failed is reported under its display name. -/
theorem result_fault_of_text [Platform] (host : Host) (hbuilder : c.options = .none)
    (hlabel : c.label = .text l)
    (value : Value) (message : String) (ruleName : Option String) (params : List Value) :
    (fault host c value message ruleName params).result =
      .ok (some { property := c.name, message := .text (FieldError.messageFor l message)
                  rawMessage := message, ruleName, params, value }) := by
  have hfalsy : ¬ c.options.builder.truthy = true := by
    rw [hbuilder]
    decide
  rw [fault, buildMessage, if_neg hfalsy, Task.result_done, defaultMessage, hlabel]
  rfl

/-- Endings for the same reason leave the same fault, each under its display name. -/
theorem result_conclude_of_sameRefusal [Platform] (host : Host) (c c' : PropertyCheck)
    {l m : String}
    (hname : c'.name = c.name) (hbuilder : c.options = .none) (hbuilder' : c'.options = .none)
    (hlabel : c.label = .text l) (hlabel' : c'.label = .text m) (value : Value)
    {a b : Request.Ending} (h : Request.SameRefusal a b) :
    ∃ o, (conclude host c value a).result = .ok o ∧
      (conclude host c' value b).result = .ok (o.map (FieldError.shownAs m)) ∧
      ∀ e ∈ o, e.property = c.name := by
  have hfault := result_fault_of_text host hbuilder hlabel value
  have hfault' := result_fault_of_text host hbuilder' hlabel' value
  cases h with
  | passed => exact ⟨none, rfl, rfl, nofun⟩
  | @refused e e' hmessage hrule hparams =>
    refine ⟨_, hfault e.message e.ruleName e.params, ?_, ?_⟩
    · rw [conclude, hfault', hmessage, hrule, hparams, hname]
      rfl
    · rintro e ⟨⟩
      rfl
  | @failed f hf =>
    obtain ⟨text, htext⟩ := hf.succeeds_text
    have hmessage : Request.failureMessage f =
        .ok (if text.isEmpty then f.kind.name else text) := by
      rw [Request.failureMessage, htext]
      rfl
    rw [conclude, conclude, if_pos hf.isOrdinary, if_pos hf.isOrdinary, hmessage]
    refine ⟨_, hfault _ none [], ?_, ?_⟩
    · rw [hfault', hname]
      rfl
    · rintro e ⟨⟩
      rfl

/-- The check of an entry of a schema under some name, without options. -/
def checkAs (data label : Value) (e : Value × List Value) : PropertyCheck :=
  { name := e.1, rules := e.2, data, label, options := .none }

/-- An entry of a schema from a document: rules that are data, under a text. -/
structure IsDocumentEntry (e : Value × List Value) : Prop where
  named : ∃ p, e.1 = .text p
  rules : ∀ v ∈ e.2, v.IsData

/-- What is validated is the value of the property. -/
theorem result_checkAs [Platform] (v : Validator) (host : Host) (es : List Entry) (label : Value)
    (e : Value × List Value) :
    (propertyTask v host (checkAs (.dict es) label e)).result =
      (conclude host (checkAs (.dict es) label e) ((Value.lookup e.1 es).getD .null)
        ((request (checkAs (.dict es) label e) ((Value.lookup e.1 es).getD .null)).run host
          v.registry v.translator).result).result := by
  have hvalue : property host (checkAs (.dict es) label e).data (checkAs (.dict es) label e).name =
      .ok ((Value.lookup e.1 es).getD .null) := rfl
  rw [propertyTask, hvalue]
  exact Task.result_bind _ _

/-- The error a property is reported as under its own name. -/
def reportedPlain [Platform] (registry : Registry) (t : Translator) (host : Host) (es : List Entry)
    (e : Value × List Value) : Option FieldError :=
  reported ⟨registry, t, [], []⟩ host (checkAs (.dict es) e.1 e)

section Property

variable {registry : Registry} {t u : Translator} {e : Value × List Value} {es : List Entry}
  {labels names : List Entry} (he : IsDocumentEntry e)
  (hdata : Value.IsData (.dict es))
include he hdata

/-- The requests for a property under two names differ in that name only. -/
theorem twins_request (label : Value) :
    Request.Twins (request (checkAs (.dict es) e.1 e) ((Value.lookup e.1 es).getD .null))
      (request (checkAs (.dict es) label e) ((Value.lookup e.1 es).getD .null)) := by
  obtain ⟨p, hp⟩ := he.named
  refine ⟨rfl, rfl, ?_, ⟨e.2, rfl, he.rules⟩, fun t entry ↦ ?_⟩
  · show ((Value.lookup e.1 es).getD .null).IsData
    cases hv : Value.lookup e.1 es with
    | none => exact .null
    | some v => exact hdata.of_lookup hv
  · have hlabel : ∀ ctx : RuleContext, ctx.translatedName = .text p → ctx.fieldName = .text p →
        ctx.label.IsData := by
      intro ctx htranslated hfield
      rw [RuleContext.label, htranslated, hfield]
      split
      · exact .text p
      · exact .text ""
    refine hlabel _ ?_ hp
    simp [Request.contextFor, request, checkAs, Value.lookup, Value.sameKey_text_iff, hp]

variable [Platform]
variable (hregistry : registry.IsStandard) (h : Translator.Shares t u)
include hregistry h

/-- **Validating a property comes to the same under any display name**, and never to a failure. -/
theorem result_relabelled (host : Host) (store : Store) (hierarchy : Hierarchy) (l : String) :
    ∃ o, (propertyTask ⟨registry, t, [], []⟩ host (checkAs (.dict es) e.1 e)).result = .ok o ∧
      (propertyTask ⟨registry, u, store, hierarchy⟩ host (checkAs (.dict es) (.text l) e)).result =
        .ok (o.map (FieldError.shownAs l)) ∧
      ∀ e' ∈ o, e'.property = e.1 := by
  obtain ⟨p, hp⟩ := he.named
  have hrefusal := Request.sameRefusal_run (twins_request he hdata (.text l)) h host hregistry
  rw [result_checkAs, result_checkAs]
  exact result_conclude_of_sameRefusal host (checkAs (.dict es) e.1 e)
    (checkAs (.dict es) (.text l) e) rfl rfl rfl hp rfl _ hrefusal

theorem property_of_reportedPlain (host : Host) {e' : FieldError}
    (he' : reportedPlain registry t host es e = some e') : e'.property = e.1 := by
  obtain ⟨o, ho, -, hproperty⟩ := result_relabelled he hdata hregistry h host [] [] ""
  rw [reportedPlain, reported, verdict, ho] at he'
  exact hproperty e' he'

/-- A property is reported under its display name. -/
theorem verdict_relabelled (host : Host) (store : Store) (hierarchy : Hierarchy)
    (hnames : Labels.ShownBy labels names) :
    verdict ⟨registry, u, store, hierarchy⟩ host (checkAs (.dict es) (Labels.shown names e.1) e) =
      .ok ((reportedPlain registry t host es e).map (FieldError.relabel labels)) := by
  obtain ⟨p, hp⟩ := he.named
  obtain ⟨o, ho, ho', hproperty⟩ :=
    result_relabelled he hdata hregistry h host store hierarchy (Labels.nameFor labels p)
  have hplain : reportedPlain registry t host es e = o := by
    rw [reportedPlain, reported, verdict, ho]
    rfl
  rw [verdict, hp, hnames, ho', hplain]
  cases o with
  | none => rfl
  | some e' =>
    have hname : e'.property = .text p := (hproperty e' rfl).trans hp
    rw [Option.map_some, Option.map_some, FieldError.relabel, hname]
    rfl

end Property

/-! ## The report -/

/-- The summary of a number of faults that can be counted can be made. -/
theorem succeeds_summary [Platform] {t : Translator} {name : String} (ht : t.IsSilent name)
    {n : Nat}
    (hn : n < 10 ^ maxShownDigits) : Succeeds (summary t n) := by
  have hcount : Value.lookup (.text "count") [(.text "count", .int n)] = some (.int n) := by
    simp [Value.lookup, Value.sameKey_text_iff]
  have hchosen : Succeeds (t.chosen "validator.failedForNFields" none (.int n)) := by
    rw [Translator.chosen]
    split
    · exact Translator.succeeds_pluralForm_int _ _
    · exact succeeds_ok _
  obtain ⟨entry, hentry⟩ := hchosen
  rw [summary, Translator.translate_eq, hcount, Option.getD_some, hentry]
  cases entry with
  | none => exact succeeds_ok _
  | some v =>
    obtain ⟨s, rfl, -⟩ := ht.of_chosen hentry
    refine FailsOnly.succeeds (Template.failsOnly_interpolate (fun e he ↦ ?_) s)
    obtain rfl := List.mem_singleton.mp he
    exact (Template.succeeds_parameterText (RuleContext.succeeds_display_nat hn)).failsOnly

theorem property_relabel (labels : List Entry) (e : FieldError) :
    (e.relabel labels).property = e.property := by
  rw [FieldError.relabel]
  split <;> rfl

variable [Platform]

/-- The report on properties that failed under their display names. -/
theorem report_relabelled {t u : Translator} (h : Translator.Shares t u) {errors : List FieldError}
    {message : String} (hnamed : ∀ e ∈ errors, ∃ p, e.property = .text p)
    (hmessage : summary t errors.length = .ok message) (target : ClassRef) (data : Value)
    (labels : List Entry) :
    (report u target data (errors.map (FieldError.relabel labels))).map Prod.fst =
      .ok ((Report.ofErrors data errors message).relabel labels) := by
  have hsummary : summary u errors.length = .ok message := by
    rw [← hmessage]
    exact Translator.translate_congr h.silent (h.messages "failedForNFields") (by decide)
      (AlikeBut.refl _)
  have hrelabelled : ∀ e ∈ errors.map (FieldError.relabel labels), ∃ p, e.property = .text p := by
    intro e he
    obtain ⟨e', he', rfl⟩ := List.mem_map.mp he
    exact property_relabel labels e' ▸ hnamed e' he'
  obtain ⟨names, hnames⟩ := (succeeds_failedNames_iff 0).mpr hrelabelled
  rw [report, List.length_map, hsummary, hnames]
  cases errors with
  | nil => rfl
  | cons e r => rfl

section Record

variable {registry : Registry} {t u : Translator} {schema : Properties} {es labels names : List Entry}
  (hschema : ∀ e ∈ schema, IsDocumentEntry e) (hdata : Value.IsData (.dict es))
  (hregistry : registry.IsStandard) (h : Translator.Shares t u)
include hschema hdata hregistry h

theorem named_filterMap_reportedPlain (host : Host) :
    ∀ e ∈ schema.filterMap (reportedPlain registry t host es), ∃ p, e.property = .text p := by
  intro e he
  obtain ⟨entry, hentry, hreported⟩ := List.mem_filterMap.mp he
  obtain ⟨p, hp⟩ := (hschema entry hentry).named
  have hproperty := property_of_reportedPlain (hschema entry hentry) hdata hregistry h host hreported
  exact ⟨p, hproperty.trans hp⟩

/-- The errors of a record are those under the own names of the properties, relabelled. -/
theorem verdicts_relabelled (host : Host) (store : Store) (hierarchy : Hierarchy)
    (hnames : Labels.ShownBy labels names) :
    (∀ c ∈ checks names (.dict es) .none schema,
      Succeeds (verdict ⟨registry, u, store, hierarchy⟩ host c)) ∧
    (checks names (.dict es) .none schema).filterMap
      (reported ⟨registry, u, store, hierarchy⟩ host) =
        (schema.filterMap (reportedPlain registry t host es)).map (FieldError.relabel labels) := by
  have hchecks : checks names (.dict es) .none schema =
      schema.map fun e ↦ checkAs (.dict es) (Labels.shown names e.1) e := rfl
  have hverdict : ∀ e ∈ schema, verdict ⟨registry, u, store, hierarchy⟩ host
      (checkAs (.dict es) (Labels.shown names e.1) e) =
        .ok ((reportedPlain registry t host es e).map (FieldError.relabel labels)) :=
    fun e he ↦ verdict_relabelled (hschema e he) hdata hregistry h host store hierarchy hnames
  rw [hchecks, List.filterMap_map, List.map_filterMap]
  refine ⟨fun c hc ↦ ?_, List.filterMap_congr fun e he ↦ ?_⟩
  · obtain ⟨e, he, rfl⟩ := List.mem_map.mp hc
    exact ⟨_, hverdict e he⟩
  · rw [Function.comp_apply, reported, hverdict e he]

end Record

/-- **The report on a record depends on the display names in the messages only.**  There is one report
on the record which, whatever the class is called and whatever the properties are shown by, is the one
that validating the record comes to, except that every property stands under its display name. -/
theorem exists_report {registry : Registry} (hregistry : registry.IsStandard) {t : Translator}
    (hsilent : t.IsSilent "field") (hlegible : t.Legible) (host : Host) {schema : Properties}
    (hschema : ∀ e ∈ schema, IsDocumentEntry e) (hlength : schema.length < 10 ^ maxShownDigits)
    {es : List Entry} (hdata : Value.IsData (.dict es)) :
    ∃ r : Report, (∀ e ∈ r.errors, ∃ p, e.property = .text p) ∧
      ∀ (u : Translator) (name : String) (labels : List Entry) (store : Store),
        Labels.Laid t u name labels →
        Schema.ofClass store (.alone name) (.declared 0 name) = .ok schema →
        Options.forClass store (.alone name) (.declared 0 name) .null = .ok .none →
        (validate ⟨registry, u, store, .alone name⟩ host (.declared 0 name) (.dict es) .null).2 =
          .ok (r.relabel labels) := by
  have hnamed := named_filterMap_reportedPlain hschema hdata hregistry
    ⟨hsilent, hlegible, fun _ ↦ rfl⟩ host
  have hcount : (schema.filterMap (reportedPlain registry t host es)).length <
      10 ^ maxShownDigits := (List.length_filterMap_le _ _).trans_lt hlength
  obtain ⟨message, hmessage⟩ := succeeds_summary hsilent hcount
  refine ⟨.ofErrors (.dict es) (schema.filterMap (reportedPlain registry t host es)) message,
    hnamed, ?_⟩
  intro u name labels store hlaid hofClass hoptions
  have hshares : Translator.Shares t u := ⟨hsilent, hlegible, hlaid.messages⟩
  obtain ⟨names, htarget, hnames⟩ := hlaid.shown
  obtain ⟨hverdicts, herrors⟩ :=
    verdicts_relabelled hschema hdata hregistry hshares host store (.alone name) hnames
  rw [validate_eq_conclusion hofClass (prepare_of_labels hoptions htarget schema),
    conclusion_runIn _ (fun c hc ↦ data_of_mem_checks hc) hverdicts, herrors]
  exact report_relabelled hshares hnamed hmessage _ _ labels

end Record
end Rulebook
