import Rulebook.Proofs.Schedule
import Rulebook.Proofs.Success
import Rulebook.Proofs.Task
import Rulebook.Record.Validation

/-!
# What validating a record comes to

The tasks of the properties of a record run side by side, and what they come to is put together
afterwards.  This file follows that from one property to the whole record.

* `Record.fails` says whether a property fails, `Record.Readable` that it can be read, and
  `Record.Worded` that the failure its task ends with, if any, has a text.  Exactly then something is
  reported (`Record.succeeds_verdict_iff`): nothing when the property passes, an error with its name
  when it fails.
* `Record.outcomes_runIn`: whatever the order of the tasks, every property has the outcome that its
  task has alone.
* `Record.faults_aloneOutcomes` and `Record.succeeds_report_iff` say what the errors of a record are
  and when a report can be made of them, and `Record.conclusion_runIn` puts both together.
-/

set_option autoImplicit false

namespace Rulebook

/-! ## Display names -/

namespace Labels

/-- The sections of a class and of its ancestors have texts as keys. -/
def Keyed (h : Hierarchy) (c : ClassRef) : Prop :=
  ∀ b ∈ h.ancestors c, b ≠ objectClass → ∃ key, h.sectionKey b = .text key

theorem succeeds_ofClass_iff (t : Translator) (h : Hierarchy) (loc : Option String) (c : ClassRef) :
    Succeeds (ofClass t h loc c) ↔ ∃ key, h.sectionKey c = .text key := by
  rw [ofClass]
  cases hkey : h.sectionKey c <;> simp

/-- The display names of a class can be found when their sections have texts as keys. -/
theorem succeeds_ofTarget_iff (t : Translator) (h : Hierarchy) (c : ClassRef)
    (loc : Option String) : Succeeds (ofTarget t h c loc) ↔ Keyed h c := by
  have hstep : ∀ (acc : List Entry) (b : ClassRef), Succeeds (do
      return (← ofClass t h loc b).foldl (fun acc e ↦ Value.insert e.1 e.2 acc) acc) ↔
        ∃ key, h.sectionKey b = .text key := by
    intro acc b
    rw [← succeeds_ofClass_iff t h loc b, succeeds_bind_iff]
    exact ⟨fun ⟨ls, hls, _⟩ ↦ ⟨ls, hls⟩, fun ⟨ls, hls⟩ ↦ ⟨ls, hls, succeeds_ok _⟩⟩
  rw [ofTarget, succeeds_foldlM_iff hstep]
  simp [Keyed]

end Labels

namespace Record

/-! ## One property -/

section Property

variable (v : Validator) (host : Host)

/-- Whether a property fails: it cannot be read, or its value is refused, or validating the value
ends with a failure. -/
def fails [Platform] (c : PropertyCheck) : Bool :=
  match property host c.data c.name with
  | .error _ => true
  | .ok value => ((request c value).run host v.registry v.translator).result.isSome

/-- What a property is reported as. -/
def verdict [Platform] (c : PropertyCheck) : Except Failure (Option FieldError) :=
  faultOf host c.data c.name (propertyTask v host c).result

/-- The value of a property can be read. -/
def Readable (c : PropertyCheck) : Prop := Succeeds (property host c.data c.name)

variable [Platform]

/-- The failure that the task of a property ends with, if any, has a text. -/
def Worded (c : PropertyCheck) : Prop :=
  ∀ f, (propertyTask v host c).result = .error f → Succeeds (settled f).text

variable {v host} {c : PropertyCheck}

/-- A property that failed with a message is an error of its name, unless its builder fails. -/
theorem result_fault (value : Value) (message : String) (ruleName : Option String)
    (params : List Value) :
    (∃ f, (fault host c value message ruleName params).result = .error f) ∨
      ∃ e, (fault host c value message ruleName params).result = .ok (some e) ∧
        e.property = c.name := by
  rw [fault]
  cases h : (buildMessage host c value message ruleName params).2 with
  | error f => exact .inl ⟨f, by rw [Task.result_done, h]; rfl⟩
  | ok m => exact .inr ⟨_, by rw [Task.result_done, h]; rfl, rfl⟩

theorem result_conclude (value : Value) (e : RequestError) :
    (∃ f, (conclude host c value (some e)).result = .error f) ∨
      ∃ e', (conclude host c value (some e)).result = .ok (some e') ∧ e'.property = c.name := by
  cases e with
  | refused e => exact result_fault value e.message e.ruleName e.params
  | failed f =>
    rw [conclude]
    split
    · split
      · exact result_fault value _ none []
      · exact .inl ⟨_, rfl⟩
    · exact .inl ⟨_, rfl⟩

theorem result_of_not_fails (h : fails v host c = false) :
    (propertyTask v host c).result = .ok none := by
  cases hvalue : property host c.data c.name with
  | error f =>
    rw [fails, hvalue] at h
    cases h
  | ok value =>
    rw [fails, hvalue] at h
    have hnone := Option.isNone_iff_eq_none.mp (Option.isSome_eq_false_iff.mp h)
    rw [propertyTask, hvalue]
    simp only [Task.result_bind, hnone]
    rfl

theorem result_of_fails (h : fails v host c = true) :
    (∃ f, (propertyTask v host c).result = .error f) ∨
      ∃ e, (propertyTask v host c).result = .ok (some e) ∧ e.property = c.name := by
  cases hvalue : property host c.data c.name with
  | error f => exact .inl ⟨f, by rw [propertyTask, hvalue]; rfl⟩
  | ok value =>
    rw [fails, hvalue] at h
    obtain ⟨e, he⟩ := Option.isSome_iff_exists.mp h
    rw [propertyTask, hvalue]
    simp only [Task.result_bind, he]
    exact result_conclude value e

theorem verdict_of_not_fails (h : fails v host c = false) : verdict v host c = .ok none := by
  rw [verdict, result_of_not_fails h]
  rfl

/-- A property that fails is reported as an error of its name, if it can be reported. -/
theorem verdict_of_fails (h : fails v host c = true) {x : Option FieldError}
    (hx : verdict v host c = .ok x) : ∃ e, x = some e ∧ e.property = c.name := by
  rw [verdict] at hx
  rcases result_of_fails h with ⟨f, hf⟩ | ⟨e, he, hname⟩
  · rw [hf, faultOf] at hx
    cases ht : (settled f).text with
    | error g => rw [ht] at hx; cases hx
    | ok raw =>
      cases hp : property host c.data c.name with
      | error g => rw [ht, hp] at hx; cases hx
      | ok value =>
        rw [ht, hp] at hx
        exact ⟨_, (Except.ok.inj hx).symm, rfl⟩
  · rw [he] at hx
    exact ⟨e, (Except.ok.inj hx).symm, hname⟩

/-- **A property is reported on when it can be read and its failure, if any, has a text.** -/
theorem succeeds_verdict_iff :
    Succeeds (verdict v host c) ↔ Readable host c ∧ Worded v host c := by
  rw [verdict]
  cases hr : (propertyTask v host c).result with
  | ok e =>
    refine iff_of_true (succeeds_ok e) ⟨?_, fun f hf ↦ by rw [hr] at hf; cases hf⟩
    by_contra hread
    cases hvalue : property host c.data c.name with
    | error f => rw [propertyTask, hvalue] at hr; cases hr
    | ok value => exact hread ⟨value, hvalue⟩
  | error f =>
    rw [faultOf, succeeds_bind_iff]
    constructor
    · rintro ⟨raw, hraw, hrest⟩
      rw [succeeds_bind_iff] at hrest
      obtain ⟨value, hvalue, -⟩ := hrest
      exact ⟨⟨value, hvalue⟩, fun f' hf' ↦ ⟨raw, Except.error.inj (hr.symm.trans hf') ▸ hraw⟩⟩
    · rintro ⟨⟨value, hvalue⟩, hworded⟩
      obtain ⟨raw, hraw⟩ := hworded f hr
      exact ⟨raw, hraw, succeeds_bind_iff.mpr ⟨value, hvalue, succeeds_ok _⟩⟩

end Property

/-! ## All properties -/

section Properties

variable [Platform]
variable {v : Validator} {host : Host} {data : Value} {cs : List PropertyCheck}

/-- The error a property is reported as, if it is reported. -/
def reported (v : Validator) (host : Host) (c : PropertyCheck) : Option FieldError :=
  match verdict v host c with
  | .ok e => e
  | .error _ => none

/-- The properties with what their tasks come to alone. -/
def aloneOutcomes (v : Validator) (host : Host) (cs : List PropertyCheck) :
    List (Value × PropertyOutcome) :=
  cs.map fun c ↦ (c.name, (propertyTask v host c).result)

theorem outcomes_of_outcomeOf {steps : List (Task.Step Event PropertyOutcome)} {n : Nat}
    (h : ∀ i c, cs[i]? = some c → outcomeOf steps (n + i) = (propertyTask v host c).result) :
    outcomes steps n cs = aloneOutcomes v host cs := by
  induction cs generalizing n with
  | nil => rfl
  | cons c r ih =>
    have hfirst : outcomeOf steps n = (propertyTask v host c).result := h 0 c rfl
    have hrest : outcomes steps (n + 1) r = aloneOutcomes v host r := by
      refine ih fun i c' hc ↦ ?_
      rw [Nat.add_right_comm n 1 i]
      exact h (i + 1) c' hc
    rw [outcomes, hfirst, hrest]
    rfl

/-- **Whatever the order, every property has the outcome that its task has alone.** -/
theorem outcomes_runIn (pick : Nat → Nat) :
    outcomes (Task.runIn pick (cs.map (propertyTask v host))) 0 cs = aloneOutcomes v host cs := by
  refine outcomes_of_outcomeOf fun i c hc ↦ ?_
  have htask : (cs.map (propertyTask v host))[i]? = some (propertyTask v host c) := by
    rw [List.getElem?_map, hc]
    rfl
  rw [Nat.zero_add, outcomeOf, Task.findSome?_runIn pick htask]
  rfl

/-- The errors of a record can be put together when every property can be reported. -/
theorem succeeds_faults_iff (hdata : ∀ c ∈ cs, c.data = data) :
    Succeeds (faults host data (aloneOutcomes v host cs)) ↔ ∀ c ∈ cs, Succeeds (verdict v host c) := by
  induction cs with
  | nil => exact iff_of_true (succeeds_ok []) nofun
  | cons c r ih =>
    have hc : c.data = data := hdata c List.mem_cons_self
    rw [aloneOutcomes, List.map_cons, faults, succeeds_bind_iff, List.forall_mem_cons,
      ← ih fun c hc ↦ hdata c (List.mem_cons_of_mem _ hc), ← hc]
    constructor
    · rintro ⟨e, he, hr⟩
      rw [succeeds_bind_iff] at hr
      obtain ⟨es, hes, -⟩ := hr
      exact ⟨⟨e, he⟩, es, hes⟩
    · rintro ⟨⟨e, he⟩, es, hes⟩
      exact ⟨e, he, succeeds_bind_iff.mpr ⟨es, hes, succeeds_ok _⟩⟩

/-- The errors of a record are what its properties are reported as, in their order. -/
theorem faults_aloneOutcomes (hdata : ∀ c ∈ cs, c.data = data)
    (h : ∀ c ∈ cs, Succeeds (verdict v host c)) :
    faults host data (aloneOutcomes v host cs) = .ok (cs.filterMap (reported v host)) := by
  induction cs with
  | nil => rfl
  | cons c r ih =>
    obtain ⟨hc, hr⟩ := List.forall_mem_cons.mp hdata
    obtain ⟨⟨e, he⟩, hrest⟩ := List.forall_mem_cons.mp h
    have hfault : faultOf host data c.name (propertyTask v host c).result = .ok e := hc ▸ he
    have hreported : reported v host c = e := by rw [reported, he]
    rw [aloneOutcomes, List.map_cons, faults, hfault, ← aloneOutcomes, List.filterMap_cons,
      hreported]
    have hrest := ih hr hrest
    cases e with
    | none => exact congrArg (Except.map fun es ↦ es) hrest
    | some e => exact congrArg (Except.map fun es ↦ e :: es) hrest

/-- **The errors of a record are those of the properties that fail, one for each.** -/
theorem map_property_filterMap_reported (h : ∀ c ∈ cs, Succeeds (verdict v host c)) :
    (cs.filterMap (reported v host)).map (·.property) =
      (cs.filter (fails v host)).map (·.name) := by
  induction cs with
  | nil => rfl
  | cons c r ih =>
    obtain ⟨⟨x, hx⟩, hrest⟩ := List.forall_mem_cons.mp h
    have hreported : reported v host c = x := by rw [reported, hx]
    have ih := ih hrest
    rw [List.filterMap_cons, List.filter_cons, hreported]
    cases hf : fails v host c with
    | false =>
      rw [verdict_of_not_fails hf] at hx
      obtain rfl := Except.ok.inj hx
      exact ih
    | true =>
      obtain ⟨e, rfl, he⟩ := verdict_of_fails hf hx
      rw [if_pos rfl, List.map_cons, List.map_cons, ih, he]

end Properties

/-! ## The report -/

section Report

variable {t : Translator} {c : ClassRef} {data : Value} {es : List FieldError}

theorem succeeds_failedNames_iff (n : Nat) :
    Succeeds (failedNames n es) ↔ ∀ e ∈ es, ∃ s, e.property = .text s := by
  induction es generalizing n with
  | nil => exact iff_of_true (succeeds_ok []) nofun
  | cons e r ih =>
    rw [failedNames, List.forall_mem_cons]
    cases hp : e.property with
    | text s =>
      simp only [succeeds_bind_iff]
      rw [← ih (n + 1)]
      exact ⟨fun ⟨ns, hns, _⟩ ↦ ⟨⟨s, rfl⟩, ns, hns⟩, fun ⟨_, ns, hns⟩ ↦ ⟨ns, hns, succeeds_ok _⟩⟩
    | _ => exact iff_of_false (not_succeeds_error _) fun ⟨⟨_, h⟩, _⟩ ↦ nomatch h

variable [Platform]

/-- A report that is made holds the errors and the record, and says whether there are any. -/
theorem errors_of_report {r : Report} {lines : List LogLine}
    (h : report t c data es = .ok (r, lines)) :
    r.errors = es ∧ r.data = data ∧ (r.success = true ↔ es = []) := by
  rw [report] at h
  split at h
  · rename_i hempty
    obtain ⟨rfl, -⟩ := Prod.mk.inj (Except.ok.inj h)
    have hnil := List.isEmpty_iff.mp hempty
    exact ⟨hnil.symm, rfl, iff_of_true rfl hnil⟩
  · rename_i hempty
    cases hs : summary t es.length with
    | error f => rw [hs] at h; cases h
    | ok message =>
      cases hn : failedNames 0 es with
      | error f => rw [hs, hn] at h; cases h
      | ok names =>
        rw [hs, hn] at h
        obtain ⟨rfl, -⟩ := Prod.mk.inj (Except.ok.inj h)
        exact ⟨rfl, rfl, iff_of_false Bool.false_ne_true (mt List.isEmpty_iff.mpr hempty)⟩

/-- A report can be made when nothing failed, or when the number of errors can be put into words and
all that failed have texts as names. -/
theorem succeeds_report_iff : Succeeds (report t c data es) ↔
    es = [] ∨ Succeeds (summary t es.length) ∧ ∀ e ∈ es, ∃ s, e.property = .text s := by
  rw [report]
  split
  · rename_i hempty
    exact iff_of_true (succeeds_ok _) (.inl (List.isEmpty_iff.mp hempty))
  · rename_i hempty
    rw [or_iff_right fun h ↦ hempty (List.isEmpty_iff.mpr h), ← succeeds_failedNames_iff 0,
      succeeds_bind_iff]
    simp only [succeeds_bind_iff]
    constructor
    · rintro ⟨m, hm, ns, hns, -⟩
      exact ⟨⟨m, hm⟩, ns, hns⟩
    · rintro ⟨⟨m, hm⟩, ns, hns⟩
      exact ⟨m, hm, ns, hns, succeeds_ok _⟩

/-- What the steps of the tasks come to depends on the outcomes only. -/
theorem result_conclusion (v : Validator) (host : Host) (cs : List PropertyCheck)
    (steps : List (Task.Step Event PropertyOutcome)) :
    (conclusion v host c data cs steps).2 = (do
      let es ← faults host data (outcomes steps 0 cs)
      let p ← report v.translator c data es
      return p.1) := by
  rw [conclusion]
  cases faults host data (outcomes steps 0 cs) with
  | error f => rfl
  | ok es =>
    show _ = (report v.translator c data es >>= fun p ↦ pure p.1)
    cases hr : report v.translator c data es with
    | error f => simp only [hr]; rfl
    | ok p => simp only [hr]; rfl

end Report

/-! ## The record -/

section Record

variable {v : Validator} {host : Host} {target : ClassRef} {data given : Value}
  {schema : Properties} {cs : List PropertyCheck} {o : Options}

/-- The properties of a schema are checked in its order, each with the record. -/
theorem map_name_checks (labels : List Entry) :
    (checks labels data o schema).map (·.name) = schema.map (·.1) := by
  rw [checks, List.map_map]
  rfl

theorem data_of_mem_checks {labels : List Entry} {c : PropertyCheck}
    (hc : c ∈ checks labels data o schema) : c.data = data := by
  obtain ⟨e, -, rfl⟩ := List.mem_map.mp hc
  rfl

variable [Platform]

/-- The checks of a record are those of its schema, with the display names of the class. -/
theorem prepare_eq_ok (ho : Options.forClass v.store v.hierarchy target given = .ok o)
    (h : prepare v target data given schema = .ok cs) :
    ∃ labels, cs = checks labels data o schema ∧
      (schema = [] ∨ Labels.ofTarget v.translator v.hierarchy target none = .ok labels) := by
  rw [prepare, ho] at h
  cases schema with
  | nil => exact ⟨[], (Except.ok.inj h).symm, .inl rfl⟩
  | cons e r =>
    cases hl : Labels.ofTarget v.translator v.hierarchy target none with
    | error f => rw [hl] at h; cases h
    | ok labels =>
      rw [hl] at h
      exact ⟨labels, (Except.ok.inj h).symm, .inr rfl⟩

theorem prepare_of_labels (ho : Options.forClass v.store v.hierarchy target given = .ok o)
    {labels : List Entry} (hl : Labels.ofTarget v.translator v.hierarchy target none = .ok labels)
    (schema : Properties) :
    prepare v target data given schema = .ok (checks labels data o schema) := by
  rw [prepare, ho, hl]
  cases schema <;> rfl

/-- What there is to check is known when the display names can be found, or nothing is to be
checked. -/
theorem succeeds_prepare_iff (ho : Options.forClass v.store v.hierarchy target given = .ok o) :
    Succeeds (prepare v target data given schema) ↔
      schema = [] ∨ Labels.Keyed v.hierarchy target := by
  rw [← Labels.succeeds_ofTarget_iff v.translator v.hierarchy target none]
  constructor
  · rintro ⟨cs, hcs⟩
    obtain ⟨labels, -, hl⟩ := prepare_eq_ok ho hcs
    exact hl.imp_right fun hl ↦ ⟨labels, hl⟩
  · rintro (rfl | ⟨labels, hl⟩)
    · rw [prepare, ho]
      exact succeeds_ok []
    · exact ⟨_, prepare_of_labels ho hl schema⟩

/-- A report can be made of properties that can be reported when none of them fails, or when the
number of those that fail can be put into words and all of them have texts as names. -/
theorem succeeds_report_reported_iff (t : Translator) (target : ClassRef)
    (h : ∀ c ∈ cs, Succeeds (verdict v host c)) :
    Succeeds (report t target data (cs.filterMap (reported v host))) ↔
      cs.filter (fails v host) = [] ∨ Succeeds (summary t (cs.filter (fails v host)).length) ∧
        ∀ c ∈ cs.filter (fails v host), ∃ s, c.name = .text s := by
  have hmap := map_property_filterMap_reported h
  have hnil : cs.filterMap (reported v host) = [] ↔ cs.filter (fails v host) = [] := by
    rw [← List.map_eq_nil_iff (f := FieldError.property), hmap, List.map_eq_nil_iff]
  have hlength : (cs.filterMap (reported v host)).length = (cs.filter (fails v host)).length := by
    rw [← List.length_map FieldError.property, hmap, List.length_map]
  have hnamed : (∀ e ∈ cs.filterMap (reported v host), ∃ s, e.property = .text s) ↔
      ∀ c ∈ cs.filter (fails v host), ∃ s, c.name = .text s := by
    rw [← List.forall_mem_map (f := FieldError.property) (P := fun p ↦ ∃ s, p = .text s), hmap,
      List.forall_mem_map]
  rw [succeeds_report_iff, hnil, hlength, hnamed]

/-- When every property can be reported, the tasks, run in any order, come to the report on the
errors. -/
theorem conclusion_runIn (pick : Nat → Nat) (hdata : ∀ c ∈ cs, c.data = data)
    (h : ∀ c ∈ cs, Succeeds (verdict v host c)) :
    (conclusion v host target data cs (Task.runIn pick (cs.map (propertyTask v host)))).2 =
      (report v.translator target data (cs.filterMap (reported v host))).map Prod.fst := by
  rw [result_conclusion, outcomes_runIn, faults_aloneOutcomes hdata h]
  show (report v.translator target data _ >>= fun p ↦ pure p.1) = _
  cases report v.translator target data (cs.filterMap (reported v host)) <;> rfl

/-- When the tasks come to a report, every property could be reported. -/
theorem succeeds_verdict_of_conclusion (pick : Nat → Nat) (hdata : ∀ c ∈ cs, c.data = data)
    (h : Succeeds (conclusion v host target data cs
      (Task.runIn pick (cs.map (propertyTask v host)))).2) :
    ∀ c ∈ cs, Succeeds (verdict v host c) := by
  rw [result_conclusion, outcomes_runIn, succeeds_bind_iff] at h
  obtain ⟨es, hes, -⟩ := h
  exact (succeeds_faults_iff hdata).mp ⟨es, hes⟩

end Record

end Record
end Rulebook
