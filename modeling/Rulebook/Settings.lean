import Rulebook.Catalog.Bundled
import Rulebook.Catalog.Folder
import Rulebook.Record.Validation

/-!
# Settings

The settings of a validator are the locale of its messages, the locale to fall back to, and perhaps a
folder of catalogs to lay over the bundled ones.  They can be taken from the environment.
-/

set_option autoImplicit false

namespace Rulebook

/-- The settings of a validator. -/
structure Settings where
  current : String
  fallback : String
  catalogFolder : Option String

/-- The outside world as far as it matters: environment variables, what paths lead to, how documents
are read, and what is left of a line when it is written. -/
structure Surroundings where
  environment : String → Option String
  find : String → Found
  reader : DocumentReader
  written : String → String

namespace Settings

/-- The settings when nothing is said. -/
def standard : Settings := ⟨"en", "en", none⟩

/-- A text that says something; the empty one says nothing. -/
def said (s : Option String) : Option String := s.filter (!·.isEmpty)

/-- The settings that environment variables make. -/
def ofEnvironment (environment : String → Option String) : Settings where
  current := (said (environment "RULEFORGE_LOCALE")).getD standard.current
  fallback := (said (environment "RULEFORGE_FALLBACK_LOCALE")).getD standard.fallback
  catalogFolder := said (environment "RULEFORGE_CATALOG_DIR")

/-- The translator of some settings. -/
def translator (s : Settings) (w : Surroundings) : Except Failure Translator :=
  let t := Translator.bundled s.current s.fallback
  match s.catalogFolder with
  | none => .ok t
  | some path =>
    match t.loadFolder w.reader path (w.find path) with
    | (t, .ok _) => .ok t
    | (_, .error f) => .error f

/-- A validator of some settings, with the standard rules, for classes of a hierarchy and what is
stored about them. -/
def validator [Platform] (s : Settings) (w : Surroundings) (store : Store) (hierarchy : Hierarchy) :
    Except Failure Validator :=
  match Registry.empty.registerStandard true with
  | (_, _, some f) => .error f
  | (registry, _, none) => do
    return { registry, translator := ← s.translator w, store, hierarchy }

end Settings
end Rulebook
