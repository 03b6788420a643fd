import Rulebook.Failure

/-!
# Classes and their ancestors

A class that is declared has bases.  Its *ancestors* are put in one order, itself first and
`object` last, that respects the order of ancestors of each base and the order of the bases
(`mergeOrders`); a class for whose bases there is no such order cannot be declared.

The classes of plain values have fixed ancestors (`nativeOrder`).
-/

set_option autoImplicit false

namespace Rulebook

/-! ## Merging orders -/

namespace ClassOrder

/-- Whether a class occurs behind the first place of some order. -/
def isBehind (c : ClassRef) (orders : List (List ClassRef)) : Bool :=
  orders.any fun o ↦ (o.drop 1).contains c

/-- The first of the classes at the front that is behind in no order. -/
def next? (orders : List (List ClassRef)) : Option ClassRef :=
  (orders.filterMap List.head?).find? fun c ↦ !isBehind c orders

/-- The orders without a class at the front. -/
def without (c : ClassRef) (orders : List (List ClassRef)) : List (List ClassRef) :=
  orders.map fun o ↦ if o.head? = some c then o.drop 1 else o

/-- Merges orders into one that respects all of them.  When there is none, the answer is the orders
that are left. -/
def merge : (fuel : Nat) → List (List ClassRef) → Except (List (List ClassRef)) (List ClassRef)
  | 0, orders => if orders.all List.isEmpty then .ok [] else .error orders
  | fuel + 1, orders =>
    if orders.all List.isEmpty then .ok []
    else
      match next? orders with
      | none => .error orders
      | some c => do return c :: (← merge fuel (without c orders))

end ClassOrder

/-- One order that respects all given ones; otherwise the orders that are left. -/
def mergeOrders (orders : List (List ClassRef)) :
    Except (List (List ClassRef)) (List ClassRef) :=
  ClassOrder.merge orders.flatten.length orders

/-! ## Hierarchies -/

/-- A declared class: its ancestors, itself first, and the key of its section in catalogs. -/
structure ClassInfo where
  order : List ClassRef
  sectionKey : Option Value

/-- The declared classes, last one first. -/
abbrev Hierarchy := List (ClassRef × ClassInfo)

/-- The class of everything. -/
def objectClass : ClassRef := .native "object"

/-- The ancestors of the class of plain values of a kind. -/
def nativeOrder (name : String) : List ClassRef :=
  let failure := ["Exception", "BaseException", "object"]
  let names := match name with
    | "object" => ["object"]
    | "bool" => ["bool", "int", "object"]
    | "datetime" => ["datetime", "date", "object"]
    | "Exception" => failure
    | "CancelledError" => ["CancelledError", "BaseException", "object"]
    | "KeyError" => "KeyError" :: "LookupError" :: failure
    | "ZeroDivisionError" => "ZeroDivisionError" :: "ArithmeticError" :: failure
    | "LookupError" | "ArithmeticError" | "ValueError" | "RuntimeError" | "TypeError"
    | "ValidationEngineError" => name :: failure
    | _ => [name, "object"]
  names.map .native

namespace Hierarchy

/-- A class and its ancestors. -/
def ancestors (h : Hierarchy) (c : ClassRef) : List ClassRef :=
  match c with
  | .native name => nativeOrder name
  | .declared .. =>
    match h.lookup c with
    | some info => info.order
    | none => [c, objectClass]

/-- The first base that is named twice. -/
def repeatedBase? : List ClassRef → Option ClassRef
  | [] => none
  | c :: r => if r.contains c then some c else repeatedBase? r

/-- The classes at the front of orders, each once. -/
def fronts (orders : List (List ClassRef)) : List ClassRef :=
  (orders.filterMap List.head?).foldl (fun acc c ↦ if acc.contains c then acc else acc ++ [c]) []

/-- The ancestors of a class with some bases, itself left out. -/
def orderOfBases (h : Hierarchy) (bases : List ClassRef) : Except Failure (List ClassRef) :=
  match bases with
  | [] => .ok [objectClass]
  | [b] => .ok (h.ancestors b)
  | _ =>
    match repeatedBase? bases with
    | some c => .error (.duplicateBase c.name)
    | none =>
      match mergeOrders (bases.map h.ancestors ++ [bases]) with
      | .ok order => .ok order
      | .error rest => .error (.inconsistentBases ((fronts rest).map ClassRef.name))

/-- Declares a class; the answer is the class and the hierarchy with it. -/
def declare (h : Hierarchy) (name : String) (bases : List ClassRef) (sectionKey : Option Value) :
    Except Failure (ClassRef × Hierarchy) := do
  if name.toList.contains (Char.ofNat 0) then throw .nullInClassName
  let order ← h.orderOfBases bases
  let c := ClassRef.declared h.length name
  return (c, (c, ⟨c :: order, sectionKey⟩) :: h)

/-- The key of the section of a class in catalogs: the declared one, or its name. -/
def sectionKey (h : Hierarchy) (c : ClassRef) : Value :=
  ((h.lookup c).bind ClassInfo.sectionKey).getD (.text c.name)

end Hierarchy
end Rulebook
