import Rulebook.Proofs.Schedule
import Rulebook.Proofs.Task

/-!
# Tasks on one queue go on in rounds

Tasks that wait on one queue go on in rounds: in each of them every task that is not done takes one
turn, in the order in which the tasks were given (`runQueue_append`).  So the events of a run are
those of the first segments of all tasks, then those of the second segments, and so on
(`events_runAll`).

What carries the induction is that a turn puts the task at the back: once every task that waits at the
beginning of a round has had its turn, those that are left wait in the same order as before.

A task has one segment more than it has pauses (`length_segments`), and pauses add up when one task
follows another (`pauses_bind`).
-/

set_option autoImplicit false

namespace Rulebook
namespace Task

variable {ε α β : Type}

/-! ## Pauses -/

/-- How often a task pauses. -/
def pauses : Task ε α → Nat
  | done .. => 0
  | pause _ t => t.pauses + 1

@[simp] theorem pauses_done (es : List ε) (a : α) : (done es a).pauses = 0 := rfl

@[simp] theorem pauses_pause (es : List ε) (t : Task ε α) :
    (pause es t).pauses = t.pauses + 1 := rfl

theorem length_segments (t : Task ε α) : t.segments.length = t.pauses + 1 := by
  induction t with
  | done es a => rfl
  | pause es t ih => rw [segments, List.length_cons, ih, pauses_pause]

@[simp] theorem pauses_after (es : List ε) (t : Task ε α) : (t.after es).pauses = t.pauses := by
  cases t <;> rfl

/-- One task after another pauses as often as both. -/
@[simp] theorem pauses_bind (t : Task ε α) (f : α → Task ε β) :
    (t.bind f).pauses = t.pauses + (f t.result).pauses := by
  induction t with
  | done es a => simp [bind]
  | pause es t ih =>
    rw [bind, pauses_pause, ih, pauses_pause, result_pause]
    omega

@[simp] theorem pauses_yields (n : Nat) : (yields n : Task ε Unit).pauses = n := by
  induction n with
  | zero => rfl
  | succ n ih => rw [yields, pauses_pause, ih]

/-! ## One round -/

/-- The events of the segment of a number; none when the task has no such segment. -/
def segment (k : Nat) (t : Task ε α) : List ε := t.segments[k]?.getD []

/-- The events of one round: those of the segments of its number, one task after another. -/
def round (k : Nat) (ts : List (Task ε α)) : List ε := ts.flatMap (segment k)

@[simp] theorem segment_zero_done (es : List ε) (a : α) : segment 0 (done es a) = es := rfl

@[simp] theorem segment_zero_pause (es : List ε) (t : Task ε α) : segment 0 (pause es t) = es := rfl

@[simp] theorem segment_succ_done (k : Nat) (es : List ε) (a : α) :
    segment (k + 1) (done es a) = [] := rfl

@[simp] theorem segment_succ_pause (k : Nat) (es : List ε) (t : Task ε α) :
    segment (k + 1) (pause es t) = segment k t := rfl

/-- The steps of a task in one turn. -/
def turn : Nat × Task ε α → List (Step ε α)
  | (i, done es a) => es.map (.event i) ++ [.finished i a]
  | (i, pause es _) => es.map (.event i)

/-- What is left of a task after one turn, if it is not done. -/
def left? : Nat × Task ε α → Option (Nat × Task ε α)
  | (_, done ..) => none
  | (i, pause _ t) => some (i, t)

@[simp] theorem filterMap_left?_done (i : Nat) (es : List ε) (a : α) (q : List (Nat × Task ε α)) :
    ((i, done es a) :: q).filterMap left? = q.filterMap left? := rfl

@[simp] theorem filterMap_left?_pause (i : Nat) (es : List ε) (t : Task ε α)
    (q : List (Nat × Task ε α)) :
    ((i, pause es t) :: q).filterMap left? = (i, t) :: q.filterMap left? := rfl

/-- **Tasks at the front of a queue take one turn each, and those that are not done then wait at the
back in the same order.** -/
theorem runQueue_append (fuel : Nat) (q later : List (Nat × Task ε α)) :
    runQueue (fuel + q.length) (q ++ later)
      = q.flatMap turn ++ runQueue fuel (later ++ q.filterMap left?) := by
  induction q generalizing later with
  | nil => simp
  | cons p q ih =>
    obtain ⟨i, t⟩ := p
    rw [List.length_cons, ← Nat.add_assoc, List.cons_append, List.flatMap_cons]
    cases t with
    | done es a =>
      rw [runQueue, ih, turn, filterMap_left?_done]
      simp
    | pause es t =>
      rw [runQueue, List.append_assoc, ih, turn, filterMap_left?_pause]
      simp

theorem filterMap_event?_turn (p : Nat × Task ε α) :
    (turn p).filterMap Step.event? = segment 0 p.2 := by
  obtain ⟨i, t⟩ := p
  cases t with
  | done es a => simp [turn, List.filterMap_map, Function.comp_def, Step.event?]
  | pause es t => simp [turn, List.filterMap_map, Function.comp_def, Step.event?]

/-- What tasks have left after one turn begins with their next segments. -/
theorem flatMap_segment_left (k : Nat) (q : List (Nat × Task ε α)) :
    (q.filterMap left?).flatMap (fun p ↦ segment k p.2) = q.flatMap fun p ↦ segment (k + 1) p.2 := by
  induction q with
  | nil => rfl
  | cons p q ih =>
    obtain ⟨i, t⟩ := p
    cases t with
    | done es a =>
      rw [filterMap_left?_done, List.flatMap_cons, segment_succ_done, ih, List.nil_append]
    | pause es t =>
      rw [filterMap_left?_pause, List.flatMap_cons, List.flatMap_cons, segment_succ_pause, ih]

/-- A round takes one turn of each task. -/
theorem turnsLeft_left (q : List (Nat × Task ε α)) :
    turnsLeft q = turnsLeft (q.filterMap left?) + q.length := by
  induction q with
  | nil => rfl
  | cons p q ih =>
    obtain ⟨i, t⟩ := p
    cases t with
    | done es a =>
      rw [turnsLeft_cons, ih, filterMap_left?_done, turns_done, List.length_cons]
      omega
    | pause es t =>
      rw [turnsLeft_cons, ih, filterMap_left?_pause, turnsLeft_cons, turns_pause, List.length_cons]
      omega

/-! ## All rounds -/

theorem turns_pos (t : Task ε α) : 0 < t.turns := by
  cases t <;> simp

/-- The events of a queue, round by round. -/
theorem events_runQueue {n fuel : Nat} {q : List (Nat × Task ε α)} (hn : ∀ p ∈ q, p.2.turns ≤ n)
    (hfuel : turnsLeft q ≤ fuel) : (runQueue fuel q).filterMap Step.event?
      = (List.range n).flatMap fun k ↦ q.flatMap fun p ↦ segment k p.2 := by
  induction n generalizing fuel q with
  | zero =>
    have hq : q = [] := by
      rw [List.eq_nil_iff_forall_not_mem]
      exact fun p hp ↦ Nat.not_lt.mpr (hn p hp) p.2.turns_pos
    cases fuel <;> simp [hq, runQueue]
  | succ n ih =>
    rw [turnsLeft_left] at hfuel
    obtain ⟨rest, rfl⟩ := Nat.exists_eq_add_of_le (Nat.le_of_add_left_le hfuel)
    have hrest : ∀ p ∈ q.filterMap left?, p.2.turns ≤ n := by
      intro p hp
      obtain ⟨⟨i, t⟩, hmem, hp⟩ := List.mem_filterMap.mp hp
      cases t with
      | done es a => cases hp
      | pause es t =>
        obtain rfl := Option.some.inj hp
        exact Nat.le_of_succ_le_succ (hn _ hmem)
    have hround := runQueue_append rest q []
    rw [List.append_nil, List.nil_append] at hround
    rw [Nat.add_comm, hround, List.filterMap_append, ih hrest (by omega), List.range_succ_eq_map,
      List.flatMap_cons, List.flatMap_map, List.filterMap_flatMap]
    simp only [filterMap_event?_turn, flatMap_segment_left]

/-- Once every turn is taken the run is over: more fuel changes nothing. -/
theorem runQueue_add {fuel : Nat} {q : List (Nat × Task ε α)} (h : turnsLeft q ≤ fuel)
    (extra : Nat) : runQueue (fuel + extra) q = runQueue fuel q := by
  induction fuel generalizing q with
  | zero =>
    cases q with
    | nil => cases extra <;> simp [runQueue]
    | cons p q =>
      rw [turnsLeft_cons] at h
      have hpos := p.2.turns_pos
      omega
  | succ fuel ih =>
    rw [Nat.add_right_comm]
    cases q with
    | nil => rfl
    | cons p q =>
      obtain ⟨i, t⟩ := p
      rw [turnsLeft_cons] at h
      cases t with
      | done es a =>
        rw [turns_done] at h
        rw [runQueue, runQueue, ih (by omega)]
      | pause es t =>
        rw [turns_pause] at h
        have hback : turnsLeft (q ++ [(i, t)]) ≤ fuel := by
          rw [turnsLeft_perm (List.perm_append_singleton _ _), turnsLeft_cons]
          omega
        rw [runQueue, runQueue, ih hback]

theorem map_snd_numbered (n : Nat) (ts : List (Task ε α)) : (numbered n ts).map Prod.snd = ts := by
  induction ts generalizing n with
  | nil => rfl
  | cons t r ih => rw [numbered, List.map_cons, ih]

/-- **The events of tasks on one queue are those of their first segments, then those of their second
segments, and so on**, each time in the order in which the tasks were given. -/
theorem events_runAll {ts : List (Task ε α)} {n : Nat} (hn : ∀ t ∈ ts, t.turns ≤ n) :
    (runAll ts).filterMap Step.event? = (List.range n).flatMap fun k ↦ round k ts := by
  have hmem : ∀ p ∈ numbered 0 ts, p.2.turns ≤ n := by
    intro p hp
    exact hn p.2 (map_snd_numbered 0 ts ▸ List.mem_map_of_mem hp)
  rw [runAll, events_runQueue hmem (by rw [turnsLeft_numbered]; omega)]
  refine List.flatMap_congr fun k _ ↦ ?_
  calc (numbered 0 ts).flatMap (fun p ↦ segment k p.2)
      = ((numbered 0 ts).map Prod.snd).flatMap (segment k) := (List.flatMap_map ..).symm
    _ = round k ts := by rw [map_snd_numbered, round]

end Task
end Rulebook
