import Rulebook.Catalog
import Rulebook.Template

/-!
# Translating message keys

A `Translator` holds one catalog for each locale, the locale in use, and the locale to fall back to
when the one in use has no entry.  `translate` finds the entry of a key, chooses the plural form that
goes with the parameter `count` when the entry has plural forms, and puts the parameters in.  A key
without a usable entry is its own translation.
-/

set_option autoImplicit false

namespace Rulebook

/-- Catalogs by locale, and the locales in use. -/
structure Translator where
  catalogs : List (String × Catalog)
  current : String
  fallback : String

namespace Translator

/-- A translator without catalogs. -/
def new (current fallback : String) : Translator := ⟨[], current, fallback⟩

/-- The catalog of a locale. -/
def catalog? (t : Translator) (loc : String) : Option Catalog := t.catalogs.lookup loc

/-- Catalogs with the one of a locale replaced, or put behind the others. -/
def put (loc : String) (c : Catalog) : List (String × Catalog) → List (String × Catalog)
  | [] => [(loc, c)]
  | (l, d) :: r => if l = loc then (l, c) :: r else (l, d) :: put loc c r

/-- Lays a catalog over the one of a locale. -/
def register (t : Translator) (loc : String) (c : Catalog) : Translator :=
  { t with catalogs := put loc (Catalog.overlay ((t.catalog? loc).getD []) c) t.catalogs }

/-- Chooses the locale in use. -/
def setLocale (t : Translator) (loc : String) : Translator := { t with current := loc }

/-- The locales that have a catalog, in order. -/
def locales (t : Translator) : List String :=
  (t.catalogs.map (·.1)).mergeSort fun a b ↦ decide (a ≤ b)

/-- The locales to look at: the one asked for, or else the one in use, and the fallback. -/
def candidates (t : Translator) (loc : Option String) : List String :=
  let first := match loc with
    | some l => if l.isEmpty then t.current else l
    | none => t.current
  [first, t.fallback]

/-- The entry of a key in the first locale that has one. -/
def lookup (t : Translator) (key : String) (loc : Option String) : Option Value :=
  (t.candidates loc).findSome? fun l ↦ (t.catalog? l).bind (Catalog.entry? · (Catalog.path key))

/-- Whether a key has an entry. -/
def has (t : Translator) (key : String) (loc : Option String) : Bool :=
  (t.lookup key loc).isSome

/-- The entries of the mapping at a key; none when there is no mapping. -/
def sectionAt (t : Translator) (key : String) (loc : Option String) : Catalog :=
  Catalog.entriesOf (t.lookup key loc)

/-! ## Plural forms -/

/-- The keys of plural forms. -/
def pluralKeys : List String := ["zero", "one", "other"]

/-- The form of an entry that goes with a count; nothing when the entry has no plural forms. -/
def pluralForm (es : List Entry) (count : Value) : Except Failure (Option Value) := do
  let form (k : String) : Option Value := Value.lookup (.text k) es
  if pluralKeys.all fun k ↦ (form k).isNone then return none
  if ← Value.equals count (.int 0) then
    if (form "zero").isSome then return form "zero"
  if ← Value.equals count (.int 1) then
    if (form "one").isSome then return form "one"
  return (form "other").or (form "one")

/-! ## Translating -/

/-- The translation of a key. -/
def translate [Platform] (t : Translator) (key : String) (params : List Entry)
    (loc : Option String) :
    Except Failure String := do
  let entry ← match t.lookup key loc with
    | some (.dict es) => pluralForm es ((Value.lookup (.text "count") params).getD .null)
    | e => pure e
  match entry with
  | none | some .null => return key
  | some v => Template.interpolate (← v.display) params

end Translator
end Rulebook
