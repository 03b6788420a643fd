import Rulebook.Failure

/-!
# Readers of documents

What a document holds is settled by its format, and reading the format is the work of a
`DocumentReader`.  It is given a text, or the bytes of a file, and comes to a value or refuses: what it
is given may have no form, or it may fail in a way of its own.
-/

set_option autoImplicit false

namespace Rulebook

/-- Reads documents. -/
structure DocumentReader where
  /-- The value of the document that a text is. -/
  ofText : String → Except Refusal Value
  /-- The value of the document in a file. -/
  ofBytes : List UInt8 → Except Refusal Value

end Rulebook
