import Rulebook.Task

/-!
# One task after another

What `Task.bind` and `Task.after` do to the events and the result of a task.  A task always comes to
the same result, so that what follows it matters only for that result (`bind_congr`).
-/

set_option autoImplicit false

namespace Rulebook
namespace Task

variable {ε α β : Type}

@[simp] theorem events_done (es : List ε) (a : α) : (done es a).events = es := by
  simp [events, segments]

@[simp] theorem events_pause (es : List ε) (t : Task ε α) :
    (pause es t).events = es ++ t.events := by
  simp [events, segments]

@[simp] theorem result_done (es : List ε) (a : α) : (done es a).result = a := rfl

@[simp] theorem result_pause (es : List ε) (t : Task ε α) : (pause es t).result = t.result := rfl

@[simp] theorem events_after (es : List ε) (t : Task ε α) :
    (t.after es).events = es ++ t.events := by
  cases t with
  | done fs a => simp [after]
  | pause fs t => simp [after]

@[simp] theorem result_after (es : List ε) (t : Task ε α) : (t.after es).result = t.result := by
  cases t <;> rfl

/-- One task after another leaves the events of both. -/
@[simp] theorem events_bind (t : Task ε α) (f : α → Task ε β) :
    (t.bind f).events = t.events ++ (f t.result).events := by
  induction t with
  | done es a => simp [bind]
  | pause es t ih => simp [bind, ih]

/-- One task after another comes to what the second one comes to. -/
@[simp] theorem result_bind (t : Task ε α) (f : α → Task ε β) :
    (t.bind f).result = (f t.result).result := by
  induction t with
  | done es a => simp [bind]
  | pause es t ih => simpa [bind] using ih

/-- What follows a task matters only for the result of the task. -/
theorem bind_congr {t : Task ε α} {f g : α → Task ε β} (h : f t.result = g t.result) :
    t.bind f = t.bind g := by
  induction t with
  | done es a => exact congrArg (after es) h
  | pause es t ih => exact congrArg (pause es) (ih h)

/-- A task after which nothing happens. -/
theorem bind_done (t : Task ε α) : (t.bind fun a ↦ done [] a) = t := by
  induction t with
  | done es a => simp [bind, after]
  | pause es t ih => exact congrArg (pause es) ih

@[simp] theorem events_yields (n : Nat) : (yields n : Task ε Unit).events = [] := by
  induction n with
  | zero => rfl
  | succ n ih => rw [yields, events_pause, ih, List.append_nil]

end Task
end Rulebook
