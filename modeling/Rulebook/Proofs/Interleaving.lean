import Rulebook.Proofs.AnyOrder
import Rulebook.Proofs.FailFast
import Rulebook.Proofs.Rounds

/-!
# How the properties of a record take turns

The properties of a record are validated side by side, each by a task that pauses once before its
first rule and then as often as its rules pause (`Record.pausesOf`).  The tasks wait on one queue, so
that what happens to a record is, round by round, the next segment of every property that is not done
(`validate_interleaves`).

The first segment of a property holds what comes of resolving its specifications and no call of a
rule.  So no rule is called before the specifications of all properties have been resolved.
-/

set_option autoImplicit false

namespace Rulebook

/-! ## Pauses of one rule -/

/-- How often running a rule pauses: as often as the rule of the caller that it comes down to. -/
def Host.pausesOf (host : Host) : Value → RuleContext → Nat
  | .callable id _, ctx => if host.isBuilder id then 0 else (host.call id ctx).pauses.getD 0
  | .bound rule params, ctx => host.pausesOf rule { ctx with params }
  | _, _ => 0

theorem pauses_replyTask (id : String) (reply : Reply) :
    (reply.task id).pauses = reply.pauses.getD 0 := by
  rw [Reply.task]
  cases reply.pauses <;> simp

theorem pauses_runRule [Platform] (host : Host) (rule : Value) (ctx : RuleContext) :
    (host.runRule rule ctx).pauses = host.pausesOf rule ctx := by
  fun_induction Host.runRule host rule ctx with
  | case1 ctx r => rfl
  | case2 ctx id n h => simp [Host.pausesOf, h]
  | case3 ctx id n h => simp [Host.pausesOf, h, pauses_replyTask]
  | case4 ctx rule params ih => rw [ih, Host.pausesOf]
  | case5 ctx c => rfl
  | case6 ctx specs => rfl
  | case7 v ctx h₁ h₂ h₃ h₄ h₅ =>
    cases v with
    | callable id n => exact absurd rfl (h₂ id n)
    | bound rule params => exact absurd rfl (h₃ rule params)
    | _ => rfl

namespace Request

variable (r : Request) (host : Host) (registry : Registry) (t : Translator)

/-! ## Pauses of one request -/

/-- How often a request pauses: not at all when some specification does not resolve or there is no
rule to run, and otherwise once before the first rule and as often as the rules that are reached. -/
def pausesOf [Platform] : Nat :=
  let parsed := (Spec.resolveAll registry r.rules).1
  if parsed.invalid = [] ∧ parsed.rules ≠ [] then
    1 + (r.reached host t parsed.rules).foldr
      (fun e n ↦ host.pausesOf e.rule (r.contextFor t e) + n) 0
  else 0

theorem pauses_afterRule [Platform] (entry : RuleEntry) (o : Outcome) :
    (r.afterRule t entry o).pauses = 0 := by
  cases o with
  | error f =>
    rw [afterRule]
    split <;> rfl
  | ok v => rfl

theorem pauses_runEntry [Platform] (entry : RuleEntry) :
    (r.runEntry host t entry).pauses = host.pausesOf entry.rule (r.contextFor t entry) := by
  rw [runEntry, Task.pauses_bind, pauses_runRule, pauses_afterRule, Nat.add_zero]

theorem pauses_runThrough [Platform] (entries : List RuleEntry) :
    (r.runThrough host t entries).pauses
    = entries.foldr (fun e n ↦ host.pausesOf e.rule (r.contextFor t e) + n) 0 := by
  induction entries with
  | nil => rfl
  | cons entry rest ih =>
    rw [List.foldr_cons, ← ih, ← pauses_runEntry]
    cases rest with
    | nil => rfl
    | cons e rest => rw [runThrough, Task.pauses_bind]; exact List.cons_ne_nil e rest

theorem logged_append (l m : List LogLine) : logged (l ++ m) = logged l ++ logged m :=
  List.map_append

variable [Platform]

/-- The three ways in which a request goes on once its specifications are resolved. -/
theorem run_cases {parsed : ParsedRules} {lines : List LogLine}
    (hparsed : Spec.resolveAll registry r.rules = (parsed, lines)) :
    (parsed.invalid ≠ [] ∧ r.run host registry t = .done
      (logged (lines ++ r.invalidLine parsed.invalid)) (some (r.invalidError t parsed.invalid))) ∨
    (parsed.invalid = [] ∧ parsed.rules = [] ∧
      r.run host registry t = .done (logged lines) none) ∨
    (parsed.invalid = [] ∧ parsed.rules ≠ [] ∧
      r.run host registry t = .pause (logged lines) (r.runEntries host t parsed.rules)) := by
  by_cases hinvalid : parsed.invalid = []
  · by_cases hrules : parsed.rules = []
    · refine .inr (.inl ⟨hinvalid, hrules, ?_⟩)
      rw [run, hparsed]
      simp [hinvalid, hrules]
    · refine .inr (.inr ⟨hinvalid, hrules, ?_⟩)
      rw [run, hparsed]
      simp [hinvalid, hrules]
  · exact .inl ⟨hinvalid, run_of_invalid r host registry t hparsed hinvalid⟩

theorem pauses_run : (r.run host registry t).pauses = r.pausesOf host registry t := by
  rw [pausesOf]
  rcases run_cases r host registry t (Prod.eta (Spec.resolveAll registry r.rules)).symm
    with ⟨h, hrun⟩ | ⟨-, h, hrun⟩ | ⟨hinvalid, hrules, hrun⟩
  · rw [hrun, if_neg fun hand ↦ h hand.1, Task.pauses_done]
  · rw [hrun, if_neg fun hand ↦ hand.2 h, Task.pauses_done]
  · rw [hrun, if_pos ⟨hinvalid, hrules⟩, Task.pauses_pause, runEntries_eq_runThrough,
      pauses_runThrough, Nat.add_comm]

end Request

namespace Record

variable {v : Validator} {host : Host} {target : ClassRef} {data given : Value}
  {schema : Properties} {cs : List PropertyCheck}

/-! ## One property -/

section

variable [Platform]

/-- How often validating a property pauses. -/
def pausesOf (v : Validator) (host : Host) (c : PropertyCheck) : Nat :=
  match property host c.data c.name with
  | .error _ => 0
  | .ok value => (request c value).pausesOf host v.registry v.translator

/-- To make a message of a failed property calls no rule. -/
theorem calls_buildMessage (host : Host) (c : PropertyCheck) (value : Value)
    (message : String)
    (ruleName : Option String) (params : List Value) :
    (buildMessage host c value message ruleName params).1.filterMap Event.call? = [] := by
  unfold buildMessage
  split
  · rw [Host.runBuilder.eq_def]
    split <;> rfl
  · rfl

theorem exists_fault (host : Host) (c : PropertyCheck) (value : Value) (message : String)
    (ruleName : Option String) (params : List Value) : ∃ es outcome,
      fault host c value message ruleName params = .done es outcome ∧
        es.filterMap Event.call? = [] :=
  ⟨_, _, rfl, calls_buildMessage host c value message ruleName params⟩

/-- Once the value of a property is validated there are no more pauses and no more calls of rules. -/
theorem exists_conclude (host : Host) (c : PropertyCheck) (value : Value)
    (ending : Request.Ending) : ∃ es outcome, conclude host c value ending = .done es outcome ∧
      es.filterMap Event.call? = [] := by
  rcases ending with _ | e | f
  · exact ⟨_, _, rfl, rfl⟩
  · exact exists_fault host c value e.message e.ruleName e.params
  · rw [conclude]
    split
    · split
      · exact exists_fault host c value _ none []
      · exact ⟨_, _, rfl, rfl⟩
    · exact ⟨_, _, rfl, rfl⟩

theorem propertyTask_of_property {c : PropertyCheck} {value : Value}
    (h : property host c.data c.name = .ok value) : propertyTask v host c =
      ((request c value).run host v.registry v.translator).bind (conclude host c value) := by
  rw [propertyTask, h]

theorem propertyTask_of_error {c : PropertyCheck} {f : Failure}
    (h : property host c.data c.name = .error f) : propertyTask v host c = .done [] (.error f) := by
  rw [propertyTask, h]

/-- A property has one segment more than it has pauses. -/
theorem length_segments_propertyTask (v : Validator) (host : Host) (c : PropertyCheck) :
    (propertyTask v host c).segments.length = pausesOf v host c + 1 := by
  rw [Task.length_segments, pausesOf]
  cases h : property host c.data c.name with
  | error f => rw [propertyTask_of_error h, Task.pauses_done]
  | ok value =>
    obtain ⟨es, outcome, hdone, -⟩ := exists_conclude host c value
      ((request c value).run host v.registry v.translator).result
    rw [propertyTask_of_property h, Task.pauses_bind, hdone, Task.pauses_done,
      Request.pauses_run]

/-- **In its first segment a property resolves its specifications and calls no rule.** -/
theorem segment_zero_propertyTask (v : Validator) (host : Host) (c : PropertyCheck) :
    (Task.segment 0 (propertyTask v host c)).filterMap Event.call? = [] ∧
      ∀ value, property host c.data c.name = .ok value →
        Request.logged (Spec.resolveAll v.registry (.list c.rules)).2 <+:
          Task.segment 0 (propertyTask v host c) := by
  cases h : property host c.data c.name with
  | error f =>
    rw [propertyTask_of_error h]
    exact ⟨rfl, nofun⟩
  | ok value =>
    have hparsed := (Prod.eta (Spec.resolveAll v.registry (request c value).rules)).symm
    rw [propertyTask_of_property h]
    rcases Request.run_cases (request c value) host v.registry v.translator hparsed with
      ⟨-, hrun⟩ | ⟨-, -, hrun⟩ | ⟨-, -, hrun⟩
    · obtain ⟨es, outcome, hdone, hcalls⟩ := exists_conclude host c value
        (some (Request.invalidError (request c value) v.translator
          (Spec.resolveAll v.registry (request c value).rules).1.invalid))
      rw [hrun, Task.bind, hdone, Task.after, Task.segment_zero_done, List.filterMap_append,
        calls_logged, hcalls, Request.logged_append, List.append_assoc]
      exact ⟨rfl, fun _ _ ↦ List.prefix_append _ _⟩
    · rw [hrun, Task.bind, conclude, Task.after, Task.segment_zero_done, List.append_nil]
      exact ⟨calls_logged _, fun _ _ ↦ List.prefix_rfl⟩
    · rw [hrun, Task.bind, Task.segment_zero_pause]
      exact ⟨calls_logged _, fun _ _ ↦ List.prefix_rfl⟩

/-! ## All properties -/

/-- The checks of a record; none when they cannot be prepared. -/
def checksOf (v : Validator) (target : ClassRef) (data given : Value) :
    List PropertyCheck :=
  match Schema.ofClass v.store v.hierarchy target with
  | .error _ => []
  | .ok schema =>
    match prepare v target data given schema with
    | .error _ => []
    | .ok cs => cs

/-- The tasks of the properties of a record. -/
def tasksOf (v : Validator) (host : Host) (target : ClassRef) (data given : Value) :
    List (Task Event PropertyOutcome) :=
  (checksOf v target data given).map (propertyTask v host)

/-- What happens to a record is what happens to its properties, and a line of the log about the
record when some of them failed. -/
theorem exists_events_conclusion (v : Validator) (host : Host) (target : ClassRef)
    (data : Value)
    (cs : List PropertyCheck) (steps : List (Task.Step Event PropertyOutcome)) :
    ∃ lines, (conclusion v host target data cs steps).1 =
      steps.filterMap Task.Step.event? ++ Request.logged lines := by
  rw [conclusion]
  split
  · exact ⟨[], (List.append_nil _).symm⟩
  · split
    · exact ⟨[], (List.append_nil _).symm⟩
    · exact ⟨_, rfl⟩

theorem exists_events_validate (v : Validator) (host : Host) (target : ClassRef)
    (data given : Value) : ∃ lines, (validate v host target data given).1 =
      (Task.runAll (tasksOf v host target data given)).filterMap Task.Step.event? ++
        Request.logged lines := by
  rw [validate, tasksOf, checksOf]
  cases Schema.ofClass v.store v.hierarchy target with
  | error f => exact ⟨[], rfl⟩
  | ok schema =>
    simp only [validateSchema]
    cases prepare v target data given schema with
    | error f => exact ⟨[], rfl⟩
    | ok cs => exact exists_events_conclusion v host target data cs _

/-- A property that is checked is checked with the options and the display names of the class. -/
theorem exists_check {schema : Properties} {cs : List PropertyCheck} {c : PropertyCheck}
    (hcs : prepare v target data given schema = .ok cs) (hc : c ∈ cs) : ∃ o labels e,
      Options.forClass v.store v.hierarchy target given = .ok o ∧
      Labels.ofTarget v.translator v.hierarchy target none = .ok labels ∧
      c = check labels data o e := by
  cases ho : Options.forClass v.store v.hierarchy target given with
  | error f =>
    rw [prepare, ho] at hcs
    cases hcs
  | ok o =>
    obtain ⟨labels, rfl, hl⟩ := prepare_eq_ok ho hcs
    obtain ⟨e, he, rfl⟩ := List.mem_map.mp hc
    exact ⟨o, labels, e, rfl, hl.resolve_left (List.ne_nil_of_mem he), rfl⟩

/-- What happens to a property that is validated alone: its segments, one after another. -/
theorem exists_events_validateAlone {c : PropertyCheck}
    (hc : c ∈ checksOf v target data given)
    (host : Host) : ∃ lines,
      (validateAlone v host target data given (c.name, c.rules)).1 =
        (propertyTask v host c).segments.flatten ++ Request.logged lines := by
  rw [checksOf] at hc
  split at hc
  · exact absurd hc List.not_mem_nil
  · split at hc
    · exact absurd hc List.not_mem_nil
    · rename_i schema hschema _ cs hcs
      obtain ⟨o, labels, e, ho, hl, he⟩ := exists_check hcs hc
      obtain ⟨lines, hlines⟩ := exists_events_conclusion v host target data [check labels data o e]
        (Task.runAll [propertyTask v host (check labels data o e)])
      refine ⟨lines, ?_⟩
      rw [validateAlone, validateSchema_of_labels ho hl, he]
      refine hlines.trans ?_
      rw [Task.runAll_singleton, Task.filterMap_event?_alone]
      rfl

/-- The checks of a record are those of its schema, in the order of the schema. -/
theorem checksOf_of_prepare {schema : Properties} {cs : List PropertyCheck}
    (hschema : Schema.ofClass v.store v.hierarchy target = .ok schema)
    (hcs : prepare v target data given schema = .ok cs) :
    checksOf v target data given = cs ∧ cs.map (fun c ↦ (c.name, c.rules)) = schema := by
  refine ⟨by simp only [checksOf, hschema, hcs], ?_⟩
  cases ho : Options.forClass v.store v.hierarchy target given with
  | error f =>
    rw [prepare, ho] at hcs
    cases hcs
  | ok o =>
    obtain ⟨labels, rfl, -⟩ := prepare_eq_ok ho hcs
    rw [checks, List.map_map]
    exact List.map_id schema

/-- **The properties of a record take turns.**  What happens to a record is, round by round, the next
segment of every property that has one, in the order of the schema, and a line about the record when
some property failed.  The run ends, with each property done exactly once, however many turns there
are to spare, and the segments of a property are what happens when it is validated alone, cut at its
pauses: one before its first rule, if there is any to run, and then those of its rules.  In the first
round all specifications are resolved and no rule is called. -/
theorem validate_interleaves (v : Validator) (host : Host) (target : ClassRef)
    (data given : Value) :
    (∀ schema cs, Schema.ofClass v.store v.hierarchy target = .ok schema →
      prepare v target data given schema = .ok cs →
        checksOf v target data given = cs ∧ cs.map (fun c ↦ (c.name, c.rules)) = schema) ∧
    (∃ lines, ∀ n, (∀ c ∈ checksOf v target data given, pausesOf v host c < n) →
      (validate v host target data given).1 =
        (List.range n).flatMap (fun k ↦ (checksOf v target data given).flatMap fun c ↦
          Task.segment k (propertyTask v host c)) ++ Request.logged lines) ∧
    ((checksOf v target data given).flatMap fun c ↦
      Task.segment 0 (propertyTask v host c)).filterMap Event.call? = [] ∧
    (∀ spare, Task.runQueue (Task.totalTurns (tasksOf v host target data given) + spare)
      (Task.numbered 0 (tasksOf v host target data given)) =
        Task.runAll (tasksOf v host target data given)) ∧
    ∀ i c, (checksOf v target data given)[i]? = some c →
      (∃ outcome, (Task.runAll (tasksOf v host target data given)).filterMap
        (Task.Step.resultOf? i) = [outcome]) ∧
      (∃ lines, (validateAlone v host target data given (c.name, c.rules)).1 =
        (propertyTask v host c).segments.flatten ++ Request.logged lines) ∧
      (propertyTask v host c).segments.length = pausesOf v host c + 1 ∧
      ∀ value, property host c.data c.name = .ok value →
        Request.logged (Spec.resolveAll v.registry (.list c.rules)).2 <+:
          Task.segment 0 (propertyTask v host c) := by
  refine ⟨fun _ _ ↦ checksOf_of_prepare, ?_, ?_, fun spare ↦ ?_, fun i c hi ↦ ⟨?_, ?_, ?_, ?_⟩⟩
  · obtain ⟨lines, hlines⟩ := exists_events_validate v host target data given
    refine ⟨lines, fun n hn ↦ ?_⟩
    have hturns : ∀ t ∈ tasksOf v host target data given, t.turns ≤ n := by
      refine List.forall_mem_map.mpr fun c hc ↦ ?_
      rw [Task.turns, length_segments_propertyTask]
      exact hn c hc
    rw [hlines, Task.events_runAll hturns]
    simp only [Task.round, tasksOf, List.flatMap_map]
  · rw [List.filterMap_flatMap, List.flatMap_eq_nil_iff]
    exact fun c _ ↦ (segment_zero_propertyTask v host c).1
  · have hfuel := (Task.turnsLeft_numbered 0 (tasksOf v host target data given)).le
    rw [Task.runAll, Task.runQueue_add hfuel, Task.runQueue_add hfuel]
  · have htask : (tasksOf v host target data given)[i]? = some (propertyTask v host c) := by
      rw [tasksOf, List.getElem?_map, hi]
      rfl
    exact ⟨_, Task.runIn_first (tasksOf v host target data given) ▸
      Task.resultsOf_runIn (fun _ ↦ 0) htask⟩
  · exact exists_events_validateAlone (List.mem_of_getElem? hi) host
  · exact length_segments_propertyTask v host c
  · exact (segment_zero_propertyTask v host c).2

end

namespace Sample

open scoped Platform

/-- What an event is a call of, if it is one, or the end of. -/
def callText : Event → Option String
  | .called id _ => some ("called " ++ id)
  | .resumed id => some ("resumed " ++ id)
  | .built _ _ message _ => some ("built " ++ message)
  | .logged _ => none

theorem callText_logged (lines : List LogLine) :
    (Request.logged lines).filterMap callText = [] := by
  rw [Request.logged, List.filterMap_map]
  exact List.filterMap_eq_nil_iff.mpr fun _ _ ↦ rfl

/-- The name is called first and is done last: it pauses twice more than the age. -/
theorem validate_interleaves_person :
    (checksOf validator person (.dict []) options).map (pausesOf validator caller) = [3, 1] ∧
    (validate validator caller person (.dict []) options).1.filterMap callText =
      ["called slow", "called quick", "built no", "resumed slow", "built late"] := by
  have hpauses : (checksOf validator person (.dict []) options).map (pausesOf validator caller) =
      [3, 1] := by with_unfolding_all rfl
  have hn : ∀ c ∈ checksOf validator person (.dict []) options,
      pausesOf validator caller c < 4 := by
    intro c hc
    have hmem : pausesOf validator caller c ∈ [3, 1] := hpauses ▸ List.mem_map_of_mem hc
    simp only [List.mem_cons, List.not_mem_nil, or_false] at hmem
    omega
  obtain ⟨-, ⟨lines, hlines⟩, -⟩ := validate_interleaves validator caller person (.dict []) options
  refine ⟨hpauses, ?_⟩
  rw [hlines 4 hn, List.filterMap_append, callText_logged, List.append_nil]
  with_unfolding_all rfl

end Sample

end Record
end Rulebook
