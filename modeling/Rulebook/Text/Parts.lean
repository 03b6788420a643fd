/-!
# Splitting a text at a separator

`parts sep cs` is what stands between the separators: one part more than there are separators, so
that the empty text has one empty part.
-/

set_option autoImplicit false

namespace Rulebook
namespace Text

/-- The parts of a list of characters between separators. -/
def parts (sep : Char) : List Char → List (List Char)
  | [] => [[]]
  | c :: r =>
    if c = sep then [] :: parts sep r
    else
      match parts sep r with
      | [] => [[c]]
      | p :: ps => (c :: p) :: ps

/-- The parts of a text between separators. -/
def splitAt (sep : Char) (s : String) : List String := (parts sep s.toList).map String.ofList

end Text
end Rulebook
