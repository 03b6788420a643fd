import Rulebook.Proofs.Outcomes

/-!
# Records validated in any order of turns

The tasks of the properties of a record take turns in an order that is not ours to choose.  What a
record comes to does not depend on it: it is what its properties come to when each is validated
alone (`Record.validateAlone`), put together in the order of the schema, and every rule and builder
is called for a property as it is when the property is validated alone.

What has to be there for a report to be made at all are texts for the names of the properties and for
the failures of their tasks, sections of the class with texts as keys, and words for how many
properties failed.  Besides, every property has to be readable: an object of the caller's may throw
something when an attribute of it is read, and the failure that this is to the task of the property
is met again, and stopped by nothing, when the report is put together.
-/

set_option autoImplicit false

namespace Rulebook

/-- Whether an event is a call of the caller's rules or builders, or the end of such a call. -/
def Event.isCall : Event → Bool
  | logged _ => false
  | _ => true

namespace Record

variable {v : Validator} {host : Host} {target : ClassRef} {data given : Value}
  {schema : Properties} {cs : List PropertyCheck} {o : Options} {labels : List Entry}

/-- Validates one property of a record alone: against the schema that has nothing else. -/
def validateAlone [Platform] (v : Validator) (host : Host) (target : ClassRef) (data given : Value)
    (e : Value × List Value) : List Event × Except Failure Report :=
  validateSchema v host target data given Task.runAll [e]

/-- The errors of a property that is validated alone. -/
def errorsAlone [Platform] (v : Validator) (host : Host) (target : ClassRef) (data given : Value)
    (e : Value × List Value) : List FieldError :=
  match (validateAlone v host target data given e).2 with
  | .ok r => r.errors
  | .error _ => []

/-- The check of a property. -/
def check (labels : List Entry) (data : Value) (o : Options) (e : Value × List Value) :
    PropertyCheck :=
  { name := e.1, rules := e.2, data, label := Labels.shown labels e.1, options := o }

theorem validateSchema_of_labels [Platform]
    (ho : Options.forClass v.store v.hierarchy target given = .ok o)
    (hl : Labels.ofTarget v.translator v.hierarchy target none = .ok labels)
    (run : List (Task Event PropertyOutcome) → List (Task.Step Event PropertyOutcome))
    (schema : Properties) :
    validateSchema v host target data given run schema = conclusion v host target data
      (schema.map (check labels data o))
      (run ((schema.map (check labels data o)).map (propertyTask v host))) := by
  rw [validateSchema, prepare_of_labels ho hl]
  rfl

theorem filter_isCall_logged (lines : List LogLine) :
    (Request.logged lines).filter Event.isCall = [] := by
  rw [Request.logged, List.filter_map, List.map_eq_nil_iff]
  exact List.filter_eq_nil_iff.mpr fun _ _ ↦ Bool.false_ne_true

/-- Putting the outcomes together calls nothing. -/
theorem calls_conclusion [Platform] (steps : List (Task.Step Event PropertyOutcome)) :
    (conclusion v host target data cs steps).1.filter Event.isCall =
      (steps.filterMap Task.Step.event?).filter Event.isCall := by
  rw [conclusion]
  split
  · rfl
  · split
    · rfl
    · rw [List.filter_append, filter_isCall_logged, List.append_nil]

/-- What is called for a property that is validated alone is what its task calls. -/
theorem calls_validateAlone [Platform]
    (ho : Options.forClass v.store v.hierarchy target given = .ok o)
    (hl : Labels.ofTarget v.translator v.hierarchy target none = .ok labels)
    (e : Value × List Value) :
    (validateAlone v host target data given e).1.filter Event.isCall =
      (propertyTask v host (check labels data o e)).events.filter Event.isCall := by
  rw [validateAlone, validateSchema_of_labels ho hl, calls_conclusion]
  rw [List.map_singleton, List.map_singleton, Task.runAll_singleton, Task.filterMap_event?_alone]

/-- Properties that have texts as names and whose failures have texts come to a report, in whatever
order their tasks take turns, exactly when all of them can be read. -/
theorem succeeds_conclusion_iff_readable [Platform] (target : ClassRef)
    (hsummed : ∀ n, 0 < n → n ≤ cs.length → Succeeds (summary v.translator n))
    (hdata : ∀ c ∈ cs, c.data = data) (hnamed : ∀ c ∈ cs, ∃ s, c.name = .text s)
    (hworded : ∀ c ∈ cs, Worded v host c) (pick : Nat → Nat) :
    Succeeds (conclusion v host target data cs
      (Task.runIn pick (cs.map (propertyTask v host)))).2 ↔ ∀ c ∈ cs, Readable host c := by
  constructor
  · intro h c hc
    exact (succeeds_verdict_iff.mp (succeeds_verdict_of_conclusion pick hdata h c hc)).1
  · intro hread
    have h : ∀ c ∈ cs, Succeeds (verdict v host c) := fun c hc ↦
      succeeds_verdict_iff.mpr ⟨hread c hc, hworded c hc⟩
    rw [conclusion_runIn pick hdata h, succeeds_map_iff, succeeds_report_reported_iff _ _ h,
      or_iff_not_imp_left]
    intro hne
    refine ⟨hsummed _ (List.length_pos_iff.mpr hne) (List.length_filter_le ..), fun c hc ↦ ?_⟩
    exact hnamed c (List.mem_of_mem_filter hc)

/-- A report that is made has the errors that the properties are reported as. -/
theorem errors_of_conclusion [Platform] {r : Report} (pick : Nat → Nat)
    (hdata : ∀ c ∈ cs, c.data = data)
    (hr : (conclusion v host target data cs
      (Task.runIn pick (cs.map (propertyTask v host)))).2 = .ok r) :
    r.errors = cs.filterMap (reported v host) ∧ r.data = data ∧
      (r.success = true ↔ r.errors = []) := by
  have h := succeeds_verdict_of_conclusion pick hdata ⟨r, hr⟩
  rw [conclusion_runIn pick hdata h] at hr
  cases hreport : report v.translator target data (cs.filterMap (reported v host)) with
  | error f => rw [hreport] at hr; cases hr
  | ok p =>
    rw [hreport] at hr
    obtain rfl := Except.ok.inj hr
    obtain ⟨herrors, hrdata, hsuccess⟩ := errors_of_report hreport
    exact ⟨herrors, hrdata, herrors ▸ hsuccess⟩

section Alone

variable [Platform]
variable (ho : Options.forClass v.store v.hierarchy target given = .ok o)
  (hl : Labels.ofTarget v.translator v.hierarchy target none = .ok labels)

include ho hl

/-- A property that is validated alone is a record with one task. -/
theorem validateAlone_eq_conclusion (e : Value × List Value) :
    (validateAlone v host target data given e).2 =
      (conclusion v host target data [check labels data o e]
        (Task.runIn (fun _ ↦ 0) ([check labels data o e].map (propertyTask v host)))).2 := by
  rw [validateAlone, validateSchema_of_labels ho hl, Task.runIn_first]
  rfl

/-- A property that has a text as name and whose failure has a text comes to a report when it is
validated alone exactly when it can be read. -/
theorem succeeds_validateAlone_iff (hsummed : Succeeds (summary v.translator 1))
    {e : Value × List Value} (hnamed : ∃ s, e.1 = .text s)
    (hworded : Worded v host (check labels data o e)) :
    Succeeds (validateAlone v host target data given e).2 ↔ Succeeds (property host data e.1) := by
  rw [validateAlone_eq_conclusion ho hl, succeeds_conclusion_iff_readable target
    (fun n hpos hle ↦ (Nat.le_antisymm hle hpos) ▸ hsummed)
    (fun c hc ↦ List.mem_singleton.mp hc ▸ rfl) (fun c hc ↦ List.mem_singleton.mp hc ▸ hnamed)
    (fun c hc ↦ List.mem_singleton.mp hc ▸ hworded)]
  exact List.forall_mem_singleton

/-- The only error of a property that is validated alone is what it is reported as. -/
theorem errorsAlone_eq {e : Value × List Value}
    (h : Succeeds (validateAlone v host target data given e).2) :
    errorsAlone v host target data given e =
      (reported v host (check labels data o e)).toList := by
  obtain ⟨r, hr⟩ := h
  have hconclusion := hr
  rw [validateAlone_eq_conclusion ho hl] at hconclusion
  have herrors := (errors_of_conclusion _ (fun c hc ↦ List.mem_singleton.mp hc ▸ rfl)
    hconclusion).1
  rw [errorsAlone, hr]
  simp only
  rw [herrors, List.filterMap_cons]
  cases reported v host (check labels data o e) <;> rfl

end Alone

/-- **A record comes to the same in every order.**  For a schema whose properties have texts as names,
and whatever the rules and the builder do as long as the failures they end with have texts: in every
order in which the tasks of the properties take turns, each task ends exactly once, and for each
property the caller's rules and builder are called as they are when it is validated alone.  The record
comes to a report exactly when all its properties can be read, and then the errors of the report are
those of the properties validated alone, one after another in the order of the schema. -/
theorem validate_anyOrder [Platform]
    (hschema : Schema.ofClass v.store v.hierarchy target = .ok schema)
    (hnamed : ∀ e ∈ schema, ∃ s, e.1 = .text s)
    (hoptions : Options.forClass v.store v.hierarchy target given = .ok o)
    (hkeyed : Labels.Keyed v.hierarchy target)
    (hworded : ∀ cs, prepare v target data given schema = .ok cs → ∀ c ∈ cs, Worded v host c)
    (hsummed : ∀ n, 0 < n → n ≤ schema.length → Succeeds (summary v.translator n)) :
    validate v host target data given =
        validateSchema v host target data given (Task.runIn fun _ ↦ 0) schema ∧
      (∀ e ∈ schema, Succeeds (validateAlone v host target data given e).2 ↔
        Succeeds (property host data e.1)) ∧
      ∃ cs, prepare v target data given schema = .ok cs ∧ cs.length = schema.length ∧
        ∀ pick : Nat → Nat,
          (∀ i e, schema[i]? = some e →
            (∃ outcome, (Task.runIn pick (cs.map (propertyTask v host))).filterMap
              (Task.Step.resultOf? i) = [outcome]) ∧
            ((Task.runIn pick (cs.map (propertyTask v host))).filterMap
                (Task.Step.eventOf? i)).filter Event.isCall =
              (validateAlone v host target data given e).1.filter Event.isCall) ∧
          (Succeeds (validateSchema v host target data given (Task.runIn pick) schema).2 ↔
            ∀ e ∈ schema, Succeeds (property host data e.1)) ∧
          ∀ r, (validateSchema v host target data given (Task.runIn pick) schema).2 = .ok r →
            r.errors = schema.flatMap (errorsAlone v host target data given) ∧
            (r.success = true ↔ r.errors = []) ∧ r.data = data := by
  obtain ⟨labels, hl⟩ :=
    (Labels.succeeds_ofTarget_iff v.translator v.hierarchy target none).mpr hkeyed
  have hcs : prepare v target data given schema = .ok (schema.map (check labels data o)) :=
    prepare_of_labels hoptions hl schema
  have hcworded := hworded _ hcs
  have halone : ∀ e ∈ schema, Succeeds (validateAlone v host target data given e).2 ↔
      Succeeds (property host data e.1) := fun e he ↦
    succeeds_validateAlone_iff hoptions hl (hsummed 1 Nat.one_pos (List.length_pos_of_mem he))
      (hnamed e he) (hcworded _ (List.mem_map_of_mem he))
  have hcdata : ∀ c ∈ schema.map (check labels data o), c.data = data :=
    List.forall_mem_map.mpr fun _ _ ↦ rfl
  have hreport : ∀ pick : Nat → Nat,
      Succeeds (validateSchema v host target data given (Task.runIn pick) schema).2 ↔
        ∀ e ∈ schema, Succeeds (property host data e.1) := by
    intro pick
    rw [validateSchema_of_labels hoptions hl, succeeds_conclusion_iff_readable target
      (by rwa [List.length_map]) hcdata (List.forall_mem_map.mpr hnamed) hcworded]
    exact List.forall_mem_map
  refine ⟨?_, halone, _, hcs, List.length_map _, fun pick ↦
    ⟨fun i e hi ↦ ?_, hreport pick, fun r hr ↦ ?_⟩⟩
  · rw [validate, hschema, funext Task.runIn_first]
  · have htask : ((schema.map (check labels data o)).map (propertyTask v host))[i]? =
        some (propertyTask v host (check labels data o e)) := by
      rw [List.getElem?_map, List.getElem?_map, hi]
      rfl
    refine ⟨⟨_, Task.resultsOf_runIn pick htask⟩, ?_⟩
    rw [calls_validateAlone hoptions hl, Task.eventsOf_runIn pick htask]
  · have hread := (hreport pick).mp ⟨r, hr⟩
    rw [validateSchema_of_labels hoptions hl] at hr
    obtain ⟨herrors, hrdata, hsuccess⟩ := errors_of_conclusion pick hcdata hr
    refine ⟨?_, hsuccess, hrdata⟩
    rw [herrors, List.filterMap_map, List.filterMap_eq_flatMap_toList]
    exact List.flatMap_congr fun e he ↦
      (errorsAlone_eq hoptions hl ((halone e he).mpr (hread e he))).symm

/-! ### Records with two properties -/

namespace Sample

open scoped Platform

/-- A caller with two rules: `slow` pauses twice and throws, and `quick` answers with a message.  The
age of an object is worked out when it is read, and cannot be for an instance without fields. -/
def caller : Host where
  call := fun id _ ↦
    if id = "slow" then ⟨some 2, .error (.thrown .valueError [.text "late"])⟩
    else ⟨none, .ok (.text "no")⟩
  build := fun _ _ message _ ↦ .ok (.text message)
  isBuilder := fun id ↦ id = "shown"
  attributeOf := fun object name ↦
    if name = "age" then
      match object with
      | .record _ => .ok (.int 7)
      | _ => .error (.thrown .valueError [.text "unborn"])
    else .error (.noAttribute object.typeName name)

def person : ClassRef := .declared 0 "Person"

/-- Rules for the name, which is slow to fail, and for the age. -/
def rules : Properties :=
  [(.text "name", [.callable "slow" none]), (.text "age", [.callable "quick" none])]

def validator : Validator :=
  ⟨⟨[], []⟩, .new "en" "en", [(person, [(Schema.rulesKey, rules.toValue)])],
    [(person, ⟨[person, objectClass], none⟩)]⟩

/-- Options with a builder. -/
def options : Value := .options .null (.callable "shown" none)

theorem ofClass_person : Schema.ofClass validator.store validator.hierarchy person = .ok rules := by
  with_unfolding_all rfl

theorem forClass_person : Options.forClass validator.store validator.hierarchy person options =
    .ok ⟨.null, .callable "shown" none⟩ := rfl

theorem forall_mem_rules : ∀ e ∈ rules, ∃ s, e.1 = .text s := by simp [rules]

theorem keyed_person : Labels.Keyed validator.hierarchy person := by
  intro b hb hne
  rcases List.mem_cons.mp hb with rfl | hb
  · exact ⟨_, rfl⟩
  · exact absurd (List.mem_singleton.mp hb) hne

/-- Whatever the record is, the failures that the tasks end with have texts. -/
theorem worded_person {data : Value}
    (h : ∀ s f, property caller data (.text s) = .error f → Succeeds (settled f).text)
    {cs : List PropertyCheck} (hcs : prepare validator person data options rules = .ok cs) :
    ∀ c ∈ cs, Worded validator caller c := by
  intro c hc f hf
  obtain ⟨labels, rfl, -⟩ := prepare_eq_ok forClass_person hcs
  have hname : ∃ s, c.name = .text s := by
    obtain ⟨e, he, rfl⟩ := List.mem_map.mp hc
    exact forall_mem_rules e he
  obtain ⟨s, hs⟩ := hname
  cases hvalue : property caller c.data c.name with
  | error g =>
    rw [propertyTask, hvalue] at hf
    rw [data_of_mem_checks hc, hs] at hvalue
    exact Except.error.inj hf ▸ h s g hvalue
  | ok value =>
    simp only [checks, rules, List.map_cons, List.map_nil, List.mem_cons, List.not_mem_nil,
      or_false] at hc
    rw [propertyTask, hvalue] at hf
    rcases hc with rfl | rfl <;> cases hf

theorem succeeds_summary (n : Nat) : Succeeds (summary validator.translator n) := ⟨_, rfl⟩

/-- In every order of turns both properties fail, and the one that is slow to fail comes first. -/
theorem validate_anyOrder_person :
    Schema.ofClass validator.store validator.hierarchy person = .ok rules ∧
      ∀ pick : Nat → Nat, ∃ r,
        (validateSchema validator caller person (.record []) options (Task.runIn pick) rules).2 =
          .ok r ∧
        r.errors.map (fun e ↦ (e.property, e.message, e.value)) =
          [(.text "name", .text "late", .null), (.text "age", .text "no", .int 7)] := by
  have hread : ∀ s, Succeeds (property caller (.record []) (.text s)) := by
    intro s
    change Succeeds (attributeOf caller (.record []) s)
    by_cases hs : s = "age"
    · exact ⟨.int 7, by rw [hs]; rfl⟩
    · exact ⟨.null, by simp [attributeOf, caller, fieldsOf, hs, Failure.kind]⟩
  have hworded : ∀ cs, prepare validator person (.record []) options rules = .ok cs →
      ∀ c ∈ cs, Worded validator caller c := fun cs ↦
    worded_person fun s f hf ↦ absurd (hread s) (hf ▸ not_succeeds_error f)
  obtain ⟨-, -, cs, -, -, hall⟩ := validate_anyOrder ofClass_person forall_mem_rules
    forClass_person keyed_person hworded fun n _ _ ↦ succeeds_summary n
  refine ⟨ofClass_person, fun pick ↦ ?_⟩
  obtain ⟨-, hreport, herrors⟩ := hall pick
  obtain ⟨r, hr⟩ := hreport.mpr fun e he ↦ by
    obtain ⟨s, hs⟩ := forall_mem_rules e he
    exact hs ▸ hread s
  refine ⟨r, hr, ?_⟩
  rw [(herrors r hr).1]
  with_unfolding_all rfl

/-- A record of which one property cannot be read is not reported on, although every failure has a text
and everything else is there. -/
theorem not_forall_validate_comes_to_report :
    ¬ ∀ (v : Validator) (host : Host) (target : ClassRef) (data given : Value) (schema : Properties)
        (o : Options), Schema.ofClass v.store v.hierarchy target = .ok schema →
      (∀ e ∈ schema, ∃ s, e.1 = .text s) →
      Options.forClass v.store v.hierarchy target given = .ok o → Labels.Keyed v.hierarchy target →
      (∀ cs, prepare v target data given schema = .ok cs → ∀ c ∈ cs, Worded v host c) →
      (∀ n, 0 < n → n ≤ schema.length → Succeeds (summary v.translator n)) →
      Succeeds (validate v host target data given).2 := by
  intro hall
  have hresult : (validate validator caller person (.instanceOf person) options).2 =
      .error (.thrown .valueError [.text "unborn"]) := by
    with_unfolding_all rfl
  have hworded : ∀ cs, prepare validator person (.instanceOf person) options rules = .ok cs →
      ∀ c ∈ cs, Worded validator caller c := fun cs ↦ worded_person fun s f hf ↦ by
    change attributeOf caller (.instanceOf person) s = _ at hf
    by_cases hs : s = "age"
    · subst hs
      exact Except.error.inj hf ▸ ⟨"unborn", rfl⟩
    · simp [attributeOf, caller, fieldsOf, hs, Failure.kind] at hf
  obtain ⟨r, hr⟩ := hall validator caller person (.instanceOf person) options rules _ ofClass_person
    forall_mem_rules forClass_person keyed_person hworded fun n _ _ ↦ succeeds_summary n
  rw [hresult] at hr
  cases hr

end Sample

end Record
end Rulebook
