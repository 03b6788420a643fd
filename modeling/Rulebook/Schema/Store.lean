import Rulebook.Hierarchy
import Rulebook.Value.Equality

/-!
# What is stored about classes

A `Store` keeps values under keys for classes.  A class sees what is stored for itself (`own?`) and
what is stored for its ancestors: under one key the value of the nearest of them (`inherited?`), or,
for mappings from properties to lists, all of them merged (`merged`), where the nearest class that
has a property decides its list.
-/

set_option autoImplicit false

namespace Rulebook

/-- Values by class and key. -/
abbrev Store := List (ClassRef × List (String × Value))

/-- Lists by property, in order. -/
abbrev Properties := List (Value × List Value)

namespace Properties

/-- The list of a property. -/
def lookup (p : Value) : Properties → Option (List Value)
  | [] => none
  | (q, l) :: r => if Value.sameKey q p then some l else lookup p r

/-- The lists with the one of a property replaced; a new property comes last. -/
def put (p : Value) (l : List Value) : Properties → Properties
  | [] => [(p, l)]
  | (q, m) :: r => if Value.sameKey q p then (q, l) :: r else (q, m) :: put p l r

/-- The lists as a mapping. -/
def toValue (ps : Properties) : Value := .dict (ps.map fun e ↦ (e.1, .list e.2))

end Properties

namespace Value

/-- The items of a value that has items: those of a container, the keys of a mapping, the characters
of a text, the numbers of bytes. -/
def iterated : Value → Except Failure (List Value)
  | list xs | tuple xs | set xs => .ok xs
  | dict es => .ok (es.map (·.1))
  | text s => .ok (s.toList.map fun c ↦ .text (String.ofList [c]))
  | bytes bs => .ok (bs.map fun b ↦ .int b.toNat)
  | v => .error (.notIterable v.typeName)

end Value

namespace Store

/-- What is stored for a class itself. -/
def entries (s : Store) (c : ClassRef) : List (String × Value) := (s.lookup c).getD []

/-- The value stored for a class itself under a key. -/
def own? (s : Store) (key : String) (c : ClassRef) : Option Value := (s.entries c).lookup key

/-- Values by key with one of them replaced. -/
def putValue (key : String) (v : Value) : List (String × Value) → List (String × Value)
  | [] => [(key, v)]
  | (k, w) :: r => if k = key then (k, v) :: r else (k, w) :: putValue key v r

/-- Stores a value for a class under a key. -/
def set (s : Store) (key : String) (c : ClassRef) (v : Value) : Store :=
  match s with
  | [] => [(c, [(key, v)])]
  | (d, es) :: r => if d = c then (d, putValue key v es) :: r else (d, es) :: set r key c v

/-- The value of the nearest class among some, which come nearest first. -/
def inherited? (s : Store) (key : String) (order : List ClassRef) : Option Value :=
  order.findSome? (s.own? key)

/-- Puts the lists of a mapping over others. -/
def mergeEntries : List Entry → Properties → Except Failure Properties
  | [], acc => .ok acc
  | (p, v) :: r, acc => do mergeEntries r (acc.put p (← v.iterated))

/-- Puts what is stored for a class over the lists of its ancestors.  Nothing, and what counts as
nothing, adds no lists. -/
def mergeClass (s : Store) (key : String) (acc : Properties) (c : ClassRef) :
    Except Failure Properties :=
  match s.own? key c with
  | none => .ok acc
  | some v =>
    if v.truthy then
      match v with
      | .dict es => mergeEntries es acc
      | v => .error (.noAttribute v.typeName "items")
    else .ok acc

/-- The lists of some classes, merged; the classes come nearest first. -/
def merged (s : Store) (key : String) (order : List ClassRef) : Except Failure Properties :=
  order.reverse.foldlM (s.mergeClass key) []

/-- Changes the list of a property of a class, starting from what it inherits.  All lists are stored
for the class then. -/
def update (s : Store) (key : String) (order : List ClassRef) (c : ClassRef) (property : Value)
    (change : List Value → List Value) : Except Failure (Properties × Store) := do
  let ps ← s.merged key order
  let ps := ps.put property (change ((ps.lookup property).getD []))
  return (ps, s.set key c ps.toValue)

end Store
end Rulebook
