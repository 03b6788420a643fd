/-!
# Tasks that take turns

A task runs until it has a result or until it pauses and lets others run.  `Task ε α` is such a task
written down: what happens before the first pause (a list of events), and either the result or the
rest of the task.

`Task.solo` runs a task by itself, and `Task.segments` are the events between its pauses.

`Task.runQueue` runs several tasks on one queue: the first task runs until it pauses and then goes to
the back.  Its fuel is the number of turns, which `totalTurns` counts.
-/

set_option autoImplicit false

namespace Rulebook

/-- A task that may pause, with the events on the way to its result. -/
inductive Task (ε α : Type) where
  | done (events : List ε) (result : α)
  | pause (events : List ε) (rest : Task ε α)

namespace Task
variable {ε α β : Type}

/-- The task of a result. -/
def pure (a : α) : Task ε α := .done [] a

/-- A task with events put in front. -/
def after (events : List ε) : Task ε α → Task ε α
  | done es a => .done (events ++ es) a
  | pause es t => .pause (events ++ es) t

/-- One task after another. -/
def bind : Task ε α → (α → Task ε β) → Task ε β
  | done es a, f => (f a).after es
  | pause es t, f => .pause es (t.bind f)

instance : Monad (Task ε) where
  pure := Task.pure
  bind := Task.bind

/-- The task that leaves events. -/
def emit (events : List ε) : Task ε Unit := .done events ()

/-- The task that pauses once. -/
def yield : Task ε Unit := .pause [] (.done [] ())

/-- The task that pauses a number of times. -/
def yields : Nat → Task ε Unit
  | 0 => .done [] ()
  | n + 1 => .pause [] (yields n)

/-! ## Running one task -/

/-- The result of a task. -/
def result : Task ε α → α
  | done _ a => a
  | pause _ t => t.result

/-- The events between the pauses of a task. -/
def segments : Task ε α → List (List ε)
  | done es _ => [es]
  | pause es t => es :: t.segments

/-- Every event of a task. -/
def events (t : Task ε α) : List ε := t.segments.flatten

/-- How often a task gets its turn before it is done. -/
def turns (t : Task ε α) : Nat := t.segments.length

/-! ## Running several tasks -/

/-- Something that happened in the task of a number, or its result. -/
inductive Step (ε α : Type) where
  | event (task : Nat) (e : ε)
  | finished (task : Nat) (a : α)

/-- Runs the tasks of a queue, each with its number. -/
def runQueue : (fuel : Nat) → List (Nat × Task ε α) → List (Step ε α)
  | 0, _ => []
  | _ + 1, [] => []
  | fuel + 1, (i, done es a) :: q => es.map (.event i) ++ .finished i a :: runQueue fuel q
  | fuel + 1, (i, pause es t) :: q => es.map (.event i) ++ runQueue fuel (q ++ [(i, t)])

/-- Tasks with their numbers, counted from `n`. -/
def numbered : Nat → List (Task ε α) → List (Nat × Task ε α)
  | _, [] => []
  | n, t :: r => (n, t) :: numbered (n + 1) r

/-- How many turns tasks take together. -/
def totalTurns (ts : List (Task ε α)) : Nat := ts.foldr (fun t n ↦ t.turns + n) 0

/-- Runs tasks on one queue, in the order in which they are given. -/
def runAll (ts : List (Task ε α)) : List (Step ε α) :=
  runQueue (totalTurns ts + 1) (numbered 0 ts)

/-- The event of a step, if it is one. -/
def Step.event? : Step ε α → Option ε
  | event _ e => some e
  | finished .. => none

/-- The result of a task, if the step is where it finished. -/
def Step.resultOf? (i : Nat) : Step ε α → Option α
  | finished j a => if i = j then some a else none
  | event .. => none

end Task
end Rulebook
