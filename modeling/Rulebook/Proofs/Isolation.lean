import Rulebook.Proofs.Annotation
import Rulebook.Proofs.Outcomes

/-!
# One property does not stop the others

A property that fails is caught where its task ends, so that the others are validated all the same.
What is left to go wrong is to put the report together: the errors are reported by the texts of the
failures, the names and the values of the properties, which have to be there (`Record.Reportable`).

A report is made exactly when nothing failed or all that failed is reportable, and then it has one
error for each property that fails, in the order of the schema, and no other.  A property whose name
is no text, for instance a number in a document, is validated like the others, but a report on a
fault of it cannot be made; and neither can one on an object that throws something when a property of
it is read.
-/

set_option autoImplicit false

namespace Rulebook
namespace Record

variable {v : Validator} {host : Host} {target : ClassRef} {data given : Value}
  {cs : List PropertyCheck}

section

variable [Platform]

/-- What it takes to report the properties that failed: texts for their names and for the failures
that their tasks ended with, their values, and words for their number. -/
structure Reportable (v : Validator) (host : Host) (failed : List PropertyCheck) :
    Prop where
  named : ∀ c ∈ failed, ∃ s, c.name = .text s
  worded : ∀ c ∈ failed, Worded v host c
  readable : ∀ c ∈ failed, Readable host c
  summed : Succeeds (summary v.translator failed.length)

/-- Every property can be reported when those that fail can be. -/
theorem Reportable.succeeds_verdict (h : Reportable v host (cs.filter (fails v host))) :
    ∀ c ∈ cs, Succeeds (verdict v host c) := by
  intro c hc
  cases hf : fails v host c with
  | false => exact ⟨none, verdict_of_not_fails hf⟩
  | true =>
    have hmem : c ∈ cs.filter (fails v host) := List.mem_filter.mpr ⟨hc, hf⟩
    exact succeeds_verdict_iff.mpr ⟨h.readable c hmem, h.worded c hmem⟩

theorem succeeds_verdict_of_filter_eq_nil (h : cs.filter (fails v host) = []) :
    ∀ c ∈ cs, Succeeds (verdict v host c) := by
  intro c hc
  have hf : fails v host c = false := by simpa using List.filter_eq_nil_iff.mp h c hc
  exact ⟨none, verdict_of_not_fails hf⟩

/-- **The tasks come to a report when nothing failed or all that failed can be reported.** -/
theorem succeeds_conclusion_iff (pick : Nat → Nat) (hdata : ∀ c ∈ cs, c.data = data) :
    Succeeds (conclusion v host target data cs (Task.runIn pick (cs.map (propertyTask v host)))).2 ↔
      cs.filter (fails v host) = [] ∨ Reportable v host (cs.filter (fails v host)) := by
  constructor
  · intro h
    have hverdict := succeeds_verdict_of_conclusion pick hdata h
    rw [conclusion_runIn pick hdata hverdict, succeeds_map_iff,
      succeeds_report_reported_iff _ _ hverdict] at h
    have hboth : ∀ c ∈ cs.filter (fails v host), Readable host c ∧ Worded v host c := fun c hc ↦
      succeeds_verdict_iff.mp (hverdict c (List.mem_of_mem_filter hc))
    exact h.imp_right fun ⟨hsummed, hnamed⟩ ↦
      ⟨hnamed, fun c hc ↦ (hboth c hc).2, fun c hc ↦ (hboth c hc).1, hsummed⟩
  · intro h
    have hverdict : ∀ c ∈ cs, Succeeds (verdict v host c) :=
      h.elim succeeds_verdict_of_filter_eq_nil Reportable.succeeds_verdict
    rw [conclusion_runIn pick hdata hverdict, succeeds_map_iff,
      succeeds_report_reported_iff _ _ hverdict]
    exact h.imp_right fun h ↦ ⟨h.summed, h.named⟩

/-- **A report has one error for each property that fails, and no other.** -/
theorem map_property_of_conclusion (pick : Nat → Nat) (hdata : ∀ c ∈ cs, c.data = data)
    {r : Report}
    (h : (conclusion v host target data cs
      (Task.runIn pick (cs.map (propertyTask v host)))).2 = .ok r) :
    r.errors.map (·.property) = (cs.filter (fails v host)).map (·.name) ∧ r.data = data := by
  have hverdict := succeeds_verdict_of_conclusion pick hdata ⟨r, h⟩
  rw [conclusion_runIn pick hdata hverdict] at h
  cases hr : report v.translator target data (cs.filterMap (reported v host)) with
  | error f => rw [hr] at h; cases h
  | ok p =>
    obtain ⟨r', lines⟩ := p
    rw [hr] at h
    obtain rfl := Except.ok.inj h
    obtain ⟨herrors, hdata, -⟩ := errors_of_report hr
    exact ⟨herrors ▸ map_property_filterMap_reported hverdict, hdata⟩

/-! ## The validation of a record -/

theorem validate_eq_conclusion {schema : Properties}
    (hschema : Schema.ofClass v.store v.hierarchy target = .ok schema)
    (hcs : prepare v target data given schema = .ok cs) :
    validate v host target data given = conclusion v host target data cs
      (Task.runIn (fun _ ↦ 0) (cs.map (propertyTask v host))) := by
  rw [validate, hschema]
  simp only
  rw [validateSchema, hcs, Task.runIn_first]

theorem validate_eq_error {schema : Properties} {f : Failure}
    (hschema : Schema.ofClass v.store v.hierarchy target = .ok schema)
    (hcs : prepare v target data given schema = .error f) :
    validate v host target data given = ([], .error f) := by
  rw [validate, hschema]
  simp only
  rw [validateSchema, hcs]

/-- **What it takes for a record to be reported on, and that one property does not stop the others.**
Whatever the rules and the builder do, validating a record of an annotated class comes to a report
exactly when there is nothing to check, or the sections of the class have texts as keys and nothing
failed or all that failed can be reported; and a report has one error for each property that fails,
in the order of the schema, and no other. -/
theorem validate_isolates (hr : Schema.Reached v.hierarchy v.store)
    (hgiven : Succeeds (Options.coerce given)) (host : Host) (target : ClassRef) (data : Value) :
    ∃ schema, Schema.ofClass v.store v.hierarchy target = .ok schema ∧
      (Succeeds (validate v host target data given).2 ↔ schema = [] ∨
        Labels.Keyed v.hierarchy target ∧ ∀ cs, prepare v target data given schema = .ok cs →
          cs.filter (fails v host) = [] ∨ Reportable v host (cs.filter (fails v host))) ∧
      ∀ r, (validate v host target data given).2 = .ok r →
        ∃ cs, prepare v target data given schema = .ok cs ∧
          cs.map (·.name) = schema.map (·.1) ∧ r.data = data ∧
          r.errors.map (·.property) = (cs.filter (fails v host)).map (·.name) := by
  have hschema := Schema.ofClass_of_sound hr.sound v.hierarchy target
  obtain ⟨own, hown⟩ := hr.options_eq_ok target
  obtain ⟨o, hgiven⟩ := hgiven
  have ho : Options.forClass v.store v.hierarchy target given = .ok (own.merge o) := by
    rw [Options.forClass, hown, hgiven]
    rfl
  generalize v.store.seen Schema.rulesKey (v.hierarchy.ancestors target) = schema at hschema
  have hprepare : Succeeds (prepare v target data given schema) ↔
      schema = [] ∨ Labels.Keyed v.hierarchy target := succeeds_prepare_iff ho
  refine ⟨schema, hschema, ?_⟩
  cases hcs : prepare v target data given schema with
  | error f =>
    have hno := mt hprepare.mpr (hcs ▸ not_succeeds_error f)
    rw [validate_eq_error hschema hcs]
    exact ⟨iff_of_false (not_succeeds_error f) fun h ↦ hno (h.imp_right And.left), nofun⟩
  | ok cs =>
    obtain ⟨labels, hchecks, -⟩ := prepare_eq_ok ho hcs
    have hdata : ∀ c ∈ cs, c.data = data := fun c hc ↦ data_of_mem_checks (hchecks ▸ hc)
    rw [validate_eq_conclusion hschema hcs, succeeds_conclusion_iff _ hdata]
    refine ⟨⟨fun h ↦ ?_, fun h ↦ ?_⟩, fun r hreport ↦ ⟨cs, rfl, ?_, ?_⟩⟩
    · refine (hprepare.mp ⟨cs, hcs⟩).imp_right fun hkeyed ↦ ⟨hkeyed, fun cs' hcs' ↦ ?_⟩
      exact Except.ok.inj hcs' ▸ h
    · rcases h with rfl | ⟨-, h⟩
      · exact .inl (by rw [hchecks]; rfl)
      · exact h cs rfl
    · rw [hchecks, map_name_checks]
    · exact (map_property_of_conclusion _ hdata hreport).symm

end

/-! ## A property that is named by a number -/

namespace Numbered

open scoped Platform

/-- A caller whose rules answer with a message. -/
def refusing : Host where
  call := fun _ _ ↦ ⟨none, .ok (.text "no")⟩
  build := fun _ _ message _ ↦ .ok (.text message)
  isBuilder := fun _ ↦ false

def row : ClassRef := .declared 0 "Row"

def rows : Hierarchy := [(row, ⟨[row, objectClass], none⟩)]

/-- A rule for the property that is named by the number one. -/
def rules : Store :=
  [(row, [(Schema.rulesKey, Properties.toValue [(.int 1, [.callable "never" none])])])]

def validator : Validator := ⟨⟨[], []⟩, .new "en" "en", rules, rows⟩

theorem reached : Schema.Reached rows rules := by
  have hdeclared : Hierarchy.declare [] "Row" [] none = .ok (row, rows) := rfl
  have hattached : Schema.attach [] rows row (.int 1) [.callable "never" none] = .ok rules := rfl
  have hbases : ∀ b ∈ ([] : List ClassRef), Hierarchy.Knows [] b := nofun
  exact (Schema.Reached.start.declare hbases hdeclared).attach rfl hattached

/-- The property fails, and the report cannot name it. -/
theorem result_validate :
    (validate validator refusing row (.dict []) .null).2 = .error (.joinedNotText 0 "int") := by
  with_unfolding_all rfl

/-- A record of which one property fails is not always reported on, even when neither a rule nor the
builder throws anything. -/
theorem not_forall_succeeds_validate :
    ¬ ∀ (v : Validator) (host : Host) (target : ClassRef) (data given : Value),
      Schema.Reached v.hierarchy v.store → Succeeds (Options.coerce given) →
      (∀ id ctx, Succeeds (host.call id ctx).outcome) →
      (∀ id name message details, Succeeds (host.build id name message details)) →
      Succeeds (validate v host target data given).2 := by
  intro hall
  obtain ⟨r, hr⟩ := hall validator refusing row (.dict []) .null reached (succeeds_ok _)
    (fun _ _ ↦ succeeds_ok _) (fun _ _ _ _ ↦ succeeds_ok _)
  rw [result_validate] at hr
  cases hr

/-- The case of the property that is named by a number. -/
theorem validate_isolates_row :
    Schema.Reached rows rules ∧ Succeeds (Options.coerce .null) ∧
      ∃ schema, Schema.ofClass rules rows row = .ok schema ∧
        (Succeeds (validate validator refusing row (.dict []) .null).2 ↔ schema = [] ∨
          Labels.Keyed rows row ∧ ∀ cs, prepare validator row (.dict []) .null schema = .ok cs →
            cs.filter (fails validator refusing) = [] ∨
              Reportable validator refusing (cs.filter (fails validator refusing))) ∧
        ∀ r, (validate validator refusing row (.dict []) .null).2 = .ok r →
          ∃ cs, prepare validator row (.dict []) .null schema = .ok cs ∧
            cs.map (·.name) = schema.map (·.1) ∧ r.data = .dict [] ∧
            r.errors.map (·.property) = (cs.filter (fails validator refusing)).map (·.name) := by
  have hgiven : Succeeds (Options.coerce .null) := succeeds_ok _
  exact ⟨reached, hgiven,
    validate_isolates (v := validator) reached hgiven refusing row (.dict [])⟩

end Numbered

end Record
end Rulebook
