/-!
# Sorting when comparisons may fail

`sortWith less` sorts a list by a comparison that may fail, and fails with the first comparison that
does.  Comparisons always ask whether a later item is less than an earlier one.  The run at the front
that is already in order (or strictly in reverse order) is taken as it is, and each following item is
placed by bisection; equal items keep their order.
-/

set_option autoImplicit false

namespace Rulebook

section
variable {ε α : Type}

/-- Places an item in a sorted list, after the items that are not greater. -/
def placeWith (less : α → α → Except ε Bool) (x : α) (sorted : List α) : Except ε (List α) :=
  match _h : sorted.drop (sorted.length / 2) with
  | [] => .ok [x]
  | m :: after => do
    if ← less x m then
      return (← placeWith less x (sorted.take (sorted.length / 2))) ++ m :: after
    else
      return sorted.take (sorted.length / 2) ++ m :: (← placeWith less x after)
termination_by sorted.length
decreasing_by
  · have := congrArg List.length _h
    simp only [List.length_drop, List.length_cons] at this
    simp only [List.length_take]
    omega
  · have := congrArg List.length _h
    simp only [List.length_drop, List.length_cons] at this
    omega

/-- The items in order at the front, last one first, and what follows them.  With `descending`, each
item must be less than the one before it, and otherwise none may be. -/
def takeRun (less : α → α → Except ε Bool) (descending : Bool) (last : α) (run : List α) :
    List α → Except ε (List α × List α)
  | [] => .ok (last :: run, [])
  | x :: r => do
    if (← less x last) = descending then takeRun less descending x (last :: run) r
    else return (last :: run, x :: r)

/-- Places items one after another. -/
def placeAll (less : α → α → Except ε Bool) (sorted : List α) : List α → Except ε (List α)
  | [] => .ok sorted
  | x :: r => do placeAll less (← placeWith less x sorted) r

/-- Sorts a list. -/
def sortWith (less : α → α → Except ε Bool) : List α → Except ε (List α)
  | [] => .ok []
  | [x] => .ok [x]
  | x :: y :: r => do
    let descending ← less y x
    let (run, rest) ← takeRun less descending y [x] r
    placeAll less (if descending then run else run.reverse) rest

end
end Rulebook
