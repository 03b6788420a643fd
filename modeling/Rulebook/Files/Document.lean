import Rulebook.Files.Reader
import Rulebook.Text.Utf8
import Rulebook.Yaml.Document

/-!
# Documents in files

A file holds a YAML document in UTF-8.  Lines may end in a line feed, a carriage return or both; they
are read as if they ended in a line feed.
-/

set_option autoImplicit false

namespace Rulebook
namespace Text

/-- Characters with a line feed at the end of every line. -/
def unifyLineEnds : List Char → List Char
  | [] => []
  | '\r' :: '\n' :: r => '\n' :: unifyLineEnds r
  | c :: r => (if c = '\r' then '\n' else c) :: unifyLineEnds r

end Text

namespace Yaml

/-- The value of the document in a file. -/
def readFile (content : List UInt8) : Except Refusal Value :=
  match Text.decodeUtf8 content with
  | .error f => .error (.failed f)
  | .ok cs => read (Text.unifyLineEnds cs)

/-- The reader of YAML documents. -/
def reader : DocumentReader where
  ofText := fun s ↦ read s.toList
  ofBytes := readFile

end Yaml
end Rulebook
