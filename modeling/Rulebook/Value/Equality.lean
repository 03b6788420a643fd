import Rulebook.Failure

/-!
# When two values are equal

Numbers are equal when they stand for the same exact number, whatever their types; a truth value is
one or zero.  A not-a-number equals nothing.  Sequences of one type are equal item by item, sets and
mappings when each holds what the other holds.  Texts, bytes and moments compare by content.

Objects have identity: two of them that are given separately are different, and so are failures and
attachments.  A signalling not-a-number refuses to be compared with a number.
-/

set_option autoImplicit false

namespace Rulebook
namespace Value

/-- Whether two numbers are equal. -/
def equalNumbers (a b : Value) : Except Failure Bool :=
  if a.isSignalling || b.isSignalling then .error .signallingComparison
  else .ok (match a.toExtended?, b.toExtended? with
    | some p, some q => decide (p = q)
    | _, _ => false)

/-- Whether some item passes a test; later items are not looked at. -/
def anyItem {κ : Type} (test : κ → Except Failure Bool) : List κ → Except Failure Bool
  | [] => .ok false
  | x :: r => do if ← test x then return true else anyItem test r

/-- The value under the first key that passes a test. -/
def lookupWith (test : Value → Except Failure Bool) :
    List (Value × Value) → Except Failure (Option Value)
  | [] => .ok none
  | (k, v) :: r => do if ← test k then return some v else lookupWith test r

mutual

/-- Whether two values are equal. -/
def equals : Value → Value → Except Failure Bool
  | null, null => .ok true
  | text s, text t => .ok (s == t)
  | bytes s, bytes t => .ok (s == t)
  | moment a, moment b => .ok (a.same b)
  | list xs, list ys => if xs.length = ys.length then equalItems xs ys else .ok false
  | tuple xs, tuple ys => equalItems xs ys
  | set xs, set ys => if xs.length = ys.length then allIn xs ys else .ok false
  | dict es, dict fs => if es.length = fs.length then entriesIn es fs else .ok false
  | a, b =>
    if a.isNumeric && b.isNumeric then equalNumbers a b
    else .ok (isSameCallable a b)

/-- Whether two lists have equal items. -/
def equalItems : List Value → List Value → Except Failure Bool
  | [], [] => .ok true
  | x :: xs, y :: ys => do if ← equals x y then equalItems xs ys else return false
  | _, _ => .ok false

/-- Whether every item of the first list equals some item of the second. -/
def allIn : List Value → List Value → Except Failure Bool
  | [], _ => .ok true
  | x :: xs, ys => do
    if ← anyItem (fun y ↦ equals x y) ys then allIn xs ys else return false

/-- Whether every entry of the first mapping is an entry of the second. -/
def entriesIn : List (Value × Value) → List (Value × Value) → Except Failure Bool
  | [], _ => .ok true
  | (k, v) :: es, fs => do
    match ← lookupWith (fun l ↦ equals k l) fs with
    | none => return false
    | some w => if ← equals v w then entriesIn es fs else return false

end

/-- Equality of keys; one that cannot be compared is not equal. -/
def sameKey (a b : Value) : Bool :=
  match equals a b with
  | .ok b => b
  | .error _ => false

mutual

/-- Why a value can be no key, if so: it is a container that can change, or holds one. -/
def keyFailure? : Value → Option Failure
  | decimal d => if d.isSignalling then some .signallingKey else none
  | tuple xs => keyFailureIn? xs
  | list xs => some (.unhashable (list xs).qualifiedTypeName)
  | set xs => some (.unhashable (set xs).qualifiedTypeName)
  | dict es => some (.unhashable (dict es).qualifiedTypeName)
  | record fs => some (.unhashable (record fs).qualifiedTypeName)
  | options context builder => some (.unhashable (options context builder).qualifiedTypeName)
  | _ => none

/-- Why the first of several values that can be no key is none. -/
def keyFailureIn? : List Value → Option Failure
  | [] => none
  | v :: r => (keyFailure? v).or (keyFailureIn? r)

end

/-! ## Mappings -/

/-- The value under a key. -/
def lookup (key : Value) : List Entry → Option Value
  | [] => none
  | (k, v) :: r => if sameKey k key then some v else lookup key r

/-- A mapping with a value put under a key.  A key that is there keeps its place and its first
spelling. -/
def insert (key v : Value) : List Entry → List Entry
  | [] => [(key, v)]
  | (k, w) :: r => if sameKey k key then (k, v) :: r else (k, w) :: insert key v r

/-- The mapping that results from putting entries in one after another. -/
def ofEntries (es : List Entry) : List Entry :=
  es.foldl (fun acc e ↦ insert e.1 e.2 acc) []

/-- The set of some items: of equal items the first one stays. -/
def distinct (items : List Value) : List Value :=
  items.foldl (fun acc v ↦ if acc.any (fun x ↦ sameKey x v) then acc else acc ++ [v]) []

end Value
end Rulebook
