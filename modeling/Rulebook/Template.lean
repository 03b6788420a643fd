import Rulebook.Text.Word
import Rulebook.Value.Display
import Rulebook.Value.Equality

/-!
# Messages with placeholders

A template is a text in which `%` and a name in braces stand for a value.  `interpolate` puts the
texts of the values in, from left to right and once: what comes from a value is not looked at again.
A placeholder whose name has no value stays as it is.
-/

set_option autoImplicit false

namespace Rulebook
namespace Template

/-- The name of the placeholder that characters begin with. -/
def placeholder? : List Char → Option (List Char)
  | '%' :: '{' :: r =>
    let name := r.takeWhile Text.isWordChar
    if name.isEmpty then none
    else
      match r.drop name.length with
      | '}' :: _ => some name
      | _ => none
  | _ => none

variable [Platform]

/-- The text of a value in a message: nothing for null, and the items of a list or tuple with commas
between them. -/
def parameterText : Value → Except Failure String
  | .null => .ok ""
  | .list xs => do return joinWith ", " (← xs.mapM Value.display)
  | .tuple xs => do return joinWith ", " (← xs.mapM Value.display)
  | v => v.display

/-- The characters of a template with the values put in.  The first `skip` characters belong to a
placeholder that has been replaced. -/
def fill (values : List Entry) : (skip : Nat) → List Char → Except Failure (List Char)
  | _, [] => .ok []
  | skip + 1, _ :: r => fill values skip r
  | 0, c :: r => do
    match placeholder? (c :: r) with
    | none => return c :: (← fill values 0 r)
    | some name =>
      match Value.lookup (.text (String.ofList name)) values with
      | none => return c :: (← fill values 0 r)
      | some v => do
        let text ← parameterText v
        return text.toList ++ (← fill values (name.length + 2) r)

/-- A template with the values put in. -/
def interpolate (template : String) (values : List Entry) : Except Failure String := do
  return String.ofList (← fill values 0 template.toList)

end Template
end Rulebook
