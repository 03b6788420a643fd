import Rulebook.Task
import Mathlib.Data.List.Rotate

/-!
# Tasks resumed in any order

`Task.runQueue` resumes tasks in the order of a queue.  `Task.runPool` resumes them in any order at
all: at every turn a function `pick` says which of the waiting tasks goes on.  The queue is the case
in which it is always the first one (`runIn_first`).

The main statement is `filter_runIn`: whatever the order, the steps of one task in a run of several
are the steps it takes when it is run alone (`Task.alone`), and so every task finishes exactly once
(`resultsOf_runIn`), with the events of its own (`eventsOf_runIn`).  What carries the induction is that
the pool always holds one task for each number, so that no turn of another task touches it.
-/

set_option autoImplicit false

namespace Rulebook
namespace Task

variable {ε α : Type}

/-! ## The steps of one task -/

/-- The number of the task that takes a step. -/
def Step.task : Step ε α → Nat
  | event i _ | finished i _ => i

/-- The event of a step, if it is one of the task of a number. -/
def Step.eventOf? (i : Nat) : Step ε α → Option ε
  | event j e => if i = j then some e else none
  | finished .. => none

/-- The steps that a task takes when nothing else is run. -/
def alone (i : Nat) (t : Task ε α) : List (Step ε α) :=
  t.events.map (.event i) ++ [.finished i t.result]

@[simp] theorem turns_done (es : List ε) (a : α) : turns (done es a) = 1 := rfl

@[simp] theorem turns_pause (es : List ε) (t : Task ε α) :
    turns (pause es t) = turns t + 1 := rfl

theorem alone_done (i : Nat) (es : List ε) (a : α) :
    alone i (done es a) = es.map (.event i) ++ [.finished i a] := by
  simp [alone, events, segments, result]

theorem alone_pause (i : Nat) (es : List ε) (t : Task ε α) :
    alone i (pause es t) = es.map (.event i) ++ alone i t := by
  simp [alone, events, segments, result]

theorem filter_task_map_event (i j : Nat) (es : List ε) :
    (es.map fun e ↦ (Step.event i e : Step ε α)).filter (·.task = j)
      = if i = j then es.map (.event i) else [] := by
  split <;> rename_i h <;> simp [List.filter_map, Function.comp_def, Step.task, h]

theorem filter_task_finished (i j : Nat) (a : α) (r : List (Step ε α)) :
    (Step.finished i a :: r).filter (·.task = j)
      = (if i = j then [.finished i a] else []) ++ r.filter (·.task = j) := by
  split <;> rename_i h <;> simp [Step.task, h]

/-- What a step says about a task is said by the steps of that task alone. -/
theorem filterMap_eq_filterMap_filter {β : Type} {f : Step ε α → Option β} {i : Nat}
    (hf : ∀ s, s.task ≠ i → f s = none) (steps : List (Step ε α)) :
    steps.filterMap f = (steps.filter (·.task = i)).filterMap f := by
  rw [List.filterMap_filter]
  refine List.filterMap_congr fun s _ ↦ ?_
  by_cases h : s.task = i
  · simp [h]
  · simp [h, hf s h]

theorem resultOf?_of_ne {i : Nat} {s : Step ε α} (h : s.task ≠ i) : s.resultOf? i = none := by
  cases s with
  | event j e => rfl
  | finished j a => exact if_neg fun hij ↦ h hij.symm

theorem eventOf?_of_ne {i : Nat} {s : Step ε α} (h : s.task ≠ i) : s.eventOf? i = none := by
  cases s with
  | event j e => exact if_neg fun hij ↦ h hij.symm
  | finished j a => rfl

theorem filterMap_resultOf?_alone (i : Nat) (t : Task ε α) :
    (alone i t).filterMap (Step.resultOf? i) = [t.result] := by
  simp [alone, List.filterMap_append, List.filterMap_map, Function.comp_def, Step.resultOf?]

theorem filterMap_eventOf?_alone (i : Nat) (t : Task ε α) :
    (alone i t).filterMap (Step.eventOf? i) = t.events := by
  simp [alone, List.filterMap_append, List.filterMap_map, Function.comp_def, Step.eventOf?]

/-! ## Any order -/

/-- Runs the tasks of a pool, each with its number.  At every turn `pick` says at which place the
task stands that is resumed, counted round; a task that pauses again goes to the back. -/
def runPool (pick : Nat → Nat) : (fuel : Nat) → List (Nat × Task ε α) → List (Step ε α)
  | 0, _ => []
  | fuel + 1, pool =>
    match pool.rotate (pick fuel) with
    | [] => []
    | (i, done es a) :: q => es.map (.event i) ++ .finished i a :: runPool pick fuel q
    | (i, pause es t) :: q => es.map (.event i) ++ runPool pick fuel (q ++ [(i, t)])

/-- Runs tasks in the order that `pick` chooses. -/
def runIn (pick : Nat → Nat) (ts : List (Task ε α)) : List (Step ε α) :=
  runPool pick (totalTurns ts + 1) (numbered 0 ts)

/-- The number of turns that the tasks of a pool still take. -/
def turnsLeft (pool : List (Nat × Task ε α)) : Nat := totalTurns (pool.map (·.2))

@[simp] theorem turnsLeft_cons (i : Nat) (t : Task ε α) (q : List (Nat × Task ε α)) :
    turnsLeft ((i, t) :: q) = t.turns + turnsLeft q := rfl

theorem turnsLeft_perm {p q : List (Nat × Task ε α)} (h : p.Perm q) :
    turnsLeft p = turnsLeft q := by
  induction h with
  | nil => rfl
  | cons e _ ih => rw [turnsLeft_cons, turnsLeft_cons, ih]
  | swap d e q => rw [turnsLeft_cons, turnsLeft_cons, turnsLeft_cons, turnsLeft_cons,
      Nat.add_left_comm]
  | trans _ _ ih ih' => exact ih.trans ih'

theorem runPool_first (fuel : Nat) (pool : List (Nat × Task ε α)) :
    runPool (fun _ ↦ 0) fuel pool = runQueue fuel pool := by
  induction fuel generalizing pool with
  | zero => rfl
  | succ fuel ih =>
    rw [runPool, List.rotate_zero]
    cases pool with
    | nil => rfl
    | cons p q =>
      obtain ⟨i, t⟩ := p
      cases t with
      | done es a => simp only [runQueue, ih]
      | pause es t => simp only [runQueue, ih]

/-- To resume always the first task is to run them on one queue. -/
theorem runIn_first (ts : List (Task ε α)) : runIn (fun _ ↦ 0) ts = runAll ts :=
  runPool_first _ _

/-- A task that is not in the pool takes no steps. -/
theorem filter_runPool_of_notMem (pick : Nat → Nat) {j : Nat} (fuel : Nat)
    (pool : List (Nat × Task ε α)) (hj : j ∉ pool.map Prod.fst) :
    (runPool pick fuel pool).filter (·.task = j) = [] := by
  induction fuel generalizing pool with
  | zero => rfl
  | succ fuel ih =>
    have hrot : j ∉ (pool.rotate (pick fuel)).map Prod.fst :=
      fun h ↦ hj (((pool.rotate_perm _).map _).subset h)
    rw [runPool]
    split
    · rfl
    · rename_i i es a q hq
      rw [hq, List.map_cons, List.mem_cons, not_or] at hrot
      rw [List.filter_append, filter_task_map_event, filter_task_finished, if_neg (Ne.symm hrot.1),
        if_neg (Ne.symm hrot.1), ih q hrot.2]
      rfl
    · rename_i i es t q hq
      rw [hq, List.map_cons, List.mem_cons, not_or] at hrot
      rw [List.filter_append, filter_task_map_event, if_neg (Ne.symm hrot.1),
        ih (q ++ [(i, t)]) (by simpa [not_or] using And.intro hrot.2 hrot.1)]
      rfl

/-- A task of the pool takes the steps that it takes alone. -/
theorem filter_runPool_of_mem (pick : Nat → Nat) {j : Nat} {u : Task ε α} (fuel : Nat)
    (pool : List (Nat × Task ε α)) (hnd : (pool.map Prod.fst).Nodup)
    (hfuel : turnsLeft pool ≤ fuel) (hu : (j, u) ∈ pool) :
    (runPool pick fuel pool).filter (·.task = j) = alone j u := by
  induction fuel generalizing pool u with
  | zero =>
    obtain ⟨l, r, rfl⟩ := List.append_of_mem hu
    have hpos : 0 < u.turns := by cases u <;> simp
    rw [turnsLeft_perm List.perm_middle, turnsLeft_cons] at hfuel
    omega
  | succ fuel ih =>
    have hperm := pool.rotate_perm (pick fuel)
    have hnd' := (hperm.map Prod.fst).nodup_iff.mpr hnd
    have hu' := hperm.mem_iff.mpr hu
    rw [← turnsLeft_perm hperm] at hfuel
    rw [runPool]
    split
    · rename_i hq
      rw [hq] at hu'
      exact absurd hu' List.not_mem_nil
    · rename_i i es a q hq
      rw [hq] at hnd' hu' hfuel
      rw [List.map_cons, List.nodup_cons] at hnd'
      rw [turnsLeft_cons, turns_done] at hfuel
      rw [List.filter_append, filter_task_map_event, filter_task_finished]
      rcases List.mem_cons.mp hu' with heq | hmem
      · -- It is `j` itself that finishes here, and nothing of it is left in the pool.
        obtain ⟨rfl, rfl⟩ := Prod.mk.injEq .. ▸ heq
        rw [if_pos rfl, if_pos rfl, filter_runPool_of_notMem pick fuel q hnd'.1, alone_done,
          List.append_nil]
      · have hne : i ≠ j := by
          rintro rfl
          exact hnd'.1 (List.mem_map.mpr ⟨(i, u), hmem, rfl⟩)
        rw [if_neg hne, if_neg hne, ih q hnd'.2 (by omega) hmem]
        rfl
    · rename_i i es t q hq
      rw [hq] at hnd' hu' hfuel
      have hback : (q ++ [(i, t)]).Perm ((i, t) :: q) := List.perm_append_singleton _ _
      have hndq : ((q ++ [(i, t)]).map Prod.fst).Nodup := (hback.map _).nodup_iff.mpr hnd'
      have hfuelq : turnsLeft (q ++ [(i, t)]) ≤ fuel := by
        rw [turnsLeft_perm hback, turnsLeft_cons]
        rw [turnsLeft_cons, turns_pause] at hfuel
        omega
      rw [List.filter_append, filter_task_map_event]
      rcases List.mem_cons.mp hu' with heq | hmem
      · obtain ⟨rfl, rfl⟩ := Prod.mk.injEq .. ▸ heq
        have hlast : (j, t) ∈ q ++ [(j, t)] := List.mem_append_right _ List.mem_cons_self
        rw [if_pos rfl, ih (q ++ [(j, t)]) hndq hfuelq hlast, alone_pause]
      · rw [List.map_cons, List.nodup_cons] at hnd'
        have hne : i ≠ j := by
          rintro rfl
          exact hnd'.1 (List.mem_map.mpr ⟨(i, u), hmem, rfl⟩)
        rw [if_neg hne, ih (q ++ [(i, t)]) hndq hfuelq (List.mem_append_left _ hmem)]
        rfl

/-! ## Numbered tasks -/

theorem map_fst_numbered (n : Nat) (ts : List (Task ε α)) :
    (numbered n ts).map Prod.fst = List.range' n ts.length := by
  induction ts generalizing n with
  | nil => rfl
  | cons t r ih => rw [numbered, List.map_cons, ih, List.length_cons, List.range'_succ]

theorem turnsLeft_numbered (n : Nat) (ts : List (Task ε α)) :
    turnsLeft (numbered n ts) = totalTurns ts := by
  induction ts generalizing n with
  | nil => rfl
  | cons t r ih =>
    rw [numbered, turnsLeft_cons, ih]
    rfl

theorem mem_numbered {n i : Nat} {t : Task ε α} {ts : List (Task ε α)} (h : ts[i]? = some t) :
    (n + i, t) ∈ numbered n ts := by
  induction ts generalizing n i with
  | nil => simp at h
  | cons u r ih =>
    rw [numbered]
    cases i with
    | zero =>
      rw [List.getElem?_cons_zero, Option.some.injEq] at h
      rw [h, Nat.add_zero]
      exact List.mem_cons_self
    | succ i =>
      rw [List.getElem?_cons_succ] at h
      rw [show n + (i + 1) = n + 1 + i by omega]
      exact List.mem_cons_of_mem _ (ih h)

/-- **Whatever the order, a task takes the steps that it takes alone.** -/
theorem filter_runIn (pick : Nat → Nat) {ts : List (Task ε α)} {i : Nat} {t : Task ε α}
    (h : ts[i]? = some t) : (runIn pick ts).filter (·.task = i) = alone i t := by
  refine filter_runPool_of_mem pick _ _ ?_ ?_ (Nat.zero_add i ▸ mem_numbered h)
  · rw [map_fst_numbered]
    exact List.nodup_range'
  · rw [turnsLeft_numbered]
    exact Nat.le_succ _

/-- Whatever the order, a task finishes once, with the result that it has alone. -/
theorem resultsOf_runIn (pick : Nat → Nat) {ts : List (Task ε α)} {i : Nat} {t : Task ε α}
    (h : ts[i]? = some t) : (runIn pick ts).filterMap (Step.resultOf? i) = [t.result] := by
  rw [filterMap_eq_filterMap_filter (fun _ ↦ resultOf?_of_ne), filter_runIn pick h,
    filterMap_resultOf?_alone]

/-- Whatever the order, a task leaves the events that it leaves alone. -/
theorem eventsOf_runIn (pick : Nat → Nat) {ts : List (Task ε α)} {i : Nat} {t : Task ε α}
    (h : ts[i]? = some t) : (runIn pick ts).filterMap (Step.eventOf? i) = t.events := by
  rw [filterMap_eq_filterMap_filter (fun _ ↦ eventOf?_of_ne), filter_runIn pick h,
    filterMap_eventOf?_alone]

/-- The result of a task is found among the steps of a run. -/
theorem findSome?_runIn (pick : Nat → Nat) {ts : List (Task ε α)} {i : Nat} {t : Task ε α}
    (h : ts[i]? = some t) : (runIn pick ts).findSome? (Step.resultOf? i) = some t.result := by
  rw [← List.head?_filterMap, resultsOf_runIn pick h]
  rfl

/-! ## A single task -/

theorem runQueue_singleton (i : Nat) (t : Task ε α) {fuel : Nat} (h : t.turns ≤ fuel) :
    runQueue fuel [(i, t)] = alone i t := by
  induction t generalizing fuel with
  | done es a =>
    obtain ⟨fuel, rfl⟩ := Nat.exists_eq_add_of_le' h
    rw [alone_done, turns_done, runQueue]
    cases fuel <;> rfl
  | pause es t ih =>
    obtain ⟨fuel, rfl⟩ := Nat.exists_eq_add_of_le' h
    rw [alone_pause, turns_pause, ← Nat.add_assoc, runQueue, List.nil_append,
      ih (Nat.le_add_left _ _)]

theorem runAll_singleton (t : Task ε α) : runAll [t] = alone 0 t :=
  runQueue_singleton 0 t (Nat.le_succ t.turns)

theorem filterMap_event?_alone (i : Nat) (t : Task ε α) :
    (alone i t).filterMap Step.event? = t.events := by
  simp [alone, List.filterMap_append, List.filterMap_map, Function.comp_def, Step.event?]

end Task
end Rulebook
