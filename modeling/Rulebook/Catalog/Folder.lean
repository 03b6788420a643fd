import Rulebook.Files.Reader
import Rulebook.Files.Tree
import Rulebook.Translator

/-!
# Catalogs in files

A catalog file holds a mapping.  A folder of catalogs has one file `<locale>.yaml` for each
locale; `Translator.loadFolder` lays them over the catalogs of a translator, in the order of their
names.
-/

set_option autoImplicit false

namespace Rulebook
namespace Catalog

/-- Reads the catalog in a file; a file without content cannot be read.  An empty document is an
empty catalog. -/
def ofFile (reader : DocumentReader) (path : String) (content : Option (List UInt8)) :
    Except Failure Catalog :=
  match content with
  | none => .error (.unreadableCatalog path)
  | some bytes =>
    match reader.ofBytes bytes with
    | .error .malformed => .error (.unreadableCatalog path)
    | .error (.failed f) => .error f
    | .ok .null => .ok []
    | .ok (.dict es) => .ok es
    | .ok _ => .error (.catalogNotMapping path)

/-- The ending of the names of catalog files. -/
def fileEnding : List Char := ".yaml".toList

/-- The locale of a file name.  An ending without a name in front is a name itself. -/
def localeOf? (fileName : String) : Option String :=
  let cs := fileName.toList
  if !fileEnding.isSuffixOf cs then none
  else if cs = fileEnding then some fileName
  else some (String.ofList (cs.take (cs.length - fileEnding.length)))

/-- The catalog files among the entries of a folder, in the order of their names, each with its
locale. -/
def filesIn (entries : List (String × Option (List UInt8))) :
    List (String × String × Option (List UInt8)) :=
  (entries.filterMap fun e ↦ (localeOf? e.1).map fun loc ↦ (loc, e.1, e.2)).mergeSort
    fun a b ↦ decide (a.2.1 ≤ b.2.1)

end Catalog

namespace Translator

/-- Lays the catalogs in files over those of a translator, one after another, and gives the locales.
When a file fails, the ones before it stay. -/
def loadFiles (t : Translator) (reader : DocumentReader) (folder : String) :
    List (String × String × Option (List UInt8)) → Translator × Except Failure (List String)
  | [] => (t, .ok [])
  | (loc, name, content) :: r =>
    match Catalog.ofFile reader (Path.within folder name) content with
    | .error f => (t, .error f)
    | .ok c =>
      let (t, loaded) := loadFiles (t.register loc c) reader folder r
      (t, loaded.map (loc :: ·))

/-- Lays the catalogs in a folder over those of a translator, and gives the locales. -/
def loadFolder (t : Translator) (reader : DocumentReader) (path : String) (found : Found) :
    Translator × Except Failure (List String) :=
  match found with
  | .folder entries => t.loadFiles reader path (Catalog.filesIn entries)
  | _ => (t, .error (.noCatalogDirectory (Path.plain path)))

end Translator
end Rulebook
