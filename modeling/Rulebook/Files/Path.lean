import Rulebook.Text.Parts

/-!
# Paths

A path names a file by the parts that lead to it, with strokes between them.  Empty parts and the
part `.` lead nowhere, so a path is shown without them (`plain`).
-/

set_option autoImplicit false

namespace Rulebook
namespace Path

/-- The parts of a path that lead somewhere. -/
def parts (path : String) : List String :=
  (Text.splitAt '/' path).filter fun p ↦ p != "" && p != "."

/-- How a path begins that starts at the root: with one stroke, or with two when it has exactly
two. -/
def start (path : String) : String :=
  match (path.toList.takeWhile (· == '/')).length with
  | 0 => ""
  | 2 => "//"
  | _ => "/"

/-- A path without the parts that lead nowhere. -/
def plain (path : String) : String :=
  let text := start path ++ String.intercalate "/" (parts path)
  if text.isEmpty then "." else text

/-- The last part of a path; it is empty when there is none. -/
def fileName (path : String) : String := (parts path).getLast?.getD ""

/-- The path of a file in a folder. -/
def within (folder name : String) : String :=
  let folder := plain folder
  if folder = "." then name
  else if folder = start folder then folder ++ name
  else folder ++ "/" ++ name

end Path
end Rulebook
