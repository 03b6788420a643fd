/-!
# What the program runs on

Values, documents and patterns may be nested, and what is done with them goes as deep as they are.  How
deep it can go is not up to the program but to the `Platform` on which it runs, and depends on what it is
that goes deeper: beyond that, what is done ends with a failure.  The platform also knows the names of
characters.

Everything holds on every platform; `Platform.usual` is one to run the program on.
-/

set_option autoImplicit false

namespace Rulebook

/-- What the program runs on, as far as it matters. -/
class Platform where
  /-- How many levels below itself the text of a value shows. -/
  shownDepth : Nat
  /-- How many levels the JSON text of a value has. -/
  writtenDepth : Nat
  /-- How many arrays and objects of a JSON document may be open at once. -/
  documentDepth : Nat
  /-- How many groups of a pattern may be open at once. -/
  patternDepth : Nat
  /-- The character that has a name. -/
  named? : String → Option Char

namespace Platform

/-- A platform with room for some thousand calls inside one another, and without names. -/
scoped instance usual : Platform := ⟨980, 980, 980, 480, fun _ ↦ none⟩

end Platform
end Rulebook
