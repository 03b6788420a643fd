import Rulebook.Files.Path

/-!
# Files and folders

`Found` is what a path leads to.  A `FileTree` is a folder with everything below it, given by the
paths and contents of its files; `FileTree.find` follows a path in it.
-/

set_option autoImplicit false

namespace Rulebook

/-- What a path leads to. -/
inductive Found where
  | nothing
  | file (content : List UInt8)
  /-- A folder: the names in it, and what is in the files among them. -/
  | folder (entries : List (String × Option (List UInt8)))

/-- The files below a folder, each with the parts of its path. -/
abbrev FileTree := List (List String × List UInt8)

namespace FileTree

/-- The tree of files that are given by their paths. -/
def ofFiles (files : List (String × List UInt8)) : FileTree :=
  files.map fun f ↦ (Path.parts f.1, f.2)

/-- Whether parts lead to a folder: they lead nowhere at all, or on the way to a file. -/
def isFolder (t : FileTree) (place : List String) : Bool :=
  place.isEmpty || t.any fun f ↦ place.isPrefixOf f.1 && place.length < f.1.length

/-- The names in a folder, each once. -/
def entries (t : FileTree) (place : List String) : List (String × Option (List UInt8)) :=
  t.foldl (fun acc f ↦
    if place.isPrefixOf f.1 then
      match f.1.drop place.length with
      | [] => acc
      | [name] => (acc.filter (·.1 != name)) ++ [(name, some f.2)]
      | name :: _ => if acc.any (·.1 == name) then acc else acc ++ [(name, none)]
    else acc) []

/-- Follows parts from a folder on, one after another. -/
def follow (t : FileTree) (place : List String) : List String → Option (List String)
  | [] => some place
  | p :: r =>
    if !t.isFolder place then none
    else if p = ".." then
      if place.isEmpty then none else follow t place.dropLast r
    else follow t (place ++ [p]) r

/-- What a path leads to from the top of the tree.  Nothing outside the tree is found. -/
def find (t : FileTree) (path : String) : Found :=
  if path.isEmpty || path.startsWith "/" then .nothing
  else
    match t.follow [] (Path.parts path) with
    | none => .nothing
    | some place =>
      if t.isFolder place then .folder (t.entries place)
      else if path.endsWith "/" || path.endsWith "/." then .nothing
      else
        match t.findRev? (·.1 == place) with
        | some f => .file f.2
        | none => .nothing

end FileTree
end Rulebook
