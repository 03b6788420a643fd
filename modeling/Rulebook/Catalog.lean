import Rulebook.Text.Parts
import Rulebook.Value.Equality

/-!
# Catalogs of messages

A catalog is a mapping whose values are texts or further mappings.  An entry is named by a path of
keys, written with points between them.

Catalogs are laid over each other (`overlay`): mappings are merged at every depth, and everything
else is replaced.
-/

set_option autoImplicit false

namespace Rulebook

/-- A catalog: the entries of its outermost mapping. -/
abbrev Catalog := List Entry

namespace Catalog

/-! ## Finding entries -/

/-- The keys of a path that is written with points. -/
def path (key : String) : List String := Text.splitAt '.' key

/-- The value at a path below a value. -/
def find? : List String → Value → Option Value
  | [], v => some v
  | p :: r, .dict es => (Value.lookup (.text p) es).bind (find? r)
  | _ :: _, _ => none

/-- The entry at a path.  One that is null counts as missing. -/
def entry? (c : Catalog) (p : List String) : Option Value :=
  (find? p (.dict c)).filter (!·.isNull)

/-! ## Laying catalogs over each other -/

/-- The entries of a mapping; anything else has none. -/
def entriesOf : Option Value → List Entry
  | some (.dict es) => es
  | _ => []

mutual

/-- What a value becomes that is laid over another one, or over nothing. -/
def overlayValue (old : Option Value) : Value → Value
  | .dict es => .dict (overlay (entriesOf old) es)
  | v => v

/-- A catalog with another one laid over it. -/
def overlay (base : Catalog) : List (Value × Value) → Catalog
  | [] => base
  | (k, v) :: r => overlay (Value.insert k (overlayValue (Value.lookup k base) v) base) r

end
end Catalog
end Rulebook
