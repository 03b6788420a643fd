import Rulebook.Hierarchy
import Rulebook.Translator

/-!
# Display names of properties

The display names of the properties of a class are kept in catalogs, in a section for the class.  A
class inherits the names of its ancestors, nearest first.
-/

set_option autoImplicit false

namespace Rulebook
namespace Labels

/-- Whether a value can be a display name. -/
def isLabel : Value → Bool
  | .text s => !Text.isBlankText s
  | _ => false

/-- The display names in the section of a class. -/
def ofClass (t : Translator) (h : Hierarchy) (loc : Option String) (c : ClassRef) :
    Except Failure (List Entry) :=
  match h.sectionKey c with
  | .text key => .ok ((t.sectionAt key loc).filter fun e ↦ isLabel e.2)
  | v => .error (.noAttribute v.typeName "split")

/-- The display names of a class. -/
def ofTarget (t : Translator) (h : Hierarchy) (c : ClassRef) (loc : Option String) :
    Except Failure (List Entry) :=
  ((h.ancestors c).reverse.filter (· != objectClass)).foldlM (fun acc c ↦ do
    return (← ofClass t h loc c).foldl (fun acc e ↦ Value.insert e.1 e.2 acc) acc) []

/-- The name that is shown for a property. -/
def shown (labels : List Entry) (property : Value) : Value :=
  match Value.lookup property labels with
  | some v => if isLabel v then v else property
  | none => property

end Labels
end Rulebook
