import Rulebook.Sorting
import Rulebook.Value.Display
import Rulebook.Value.Order

/-!
# The JSON text of a value

Containers are compared by their JSON text: lists and tuples as arrays, mappings as objects with
their keys in order, at every depth.  Texts are written in ASCII, other characters as escapes of
their UTF-16 units.  A value that JSON has no form for is written as the text it is shown as.  Arrays,
objects and such values take a level each: `jsonTextWithin` writes a value with room for a number of
levels.

Keys are sorted before any of them is written, so a mapping with keys that have no order fails even
when a key could not have been written either.
-/

set_option autoImplicit false

namespace Rulebook
namespace Json

/-- A code point.  Unlike a character it may be one half of a surrogate pair. -/
abbrev CodePoint := Fin 0x110000

/-- A character as a code point. -/
def codePoint (c : Char) : CodePoint :=
  ⟨c.toNat, by
    have hscalar : c.toNat < 0xd800 ∨ 0xdfff < c.toNat ∧ c.toNat < 0x110000 := c.valid
    omega⟩

/-- The code points of a text. -/
def codePoints (s : String) : List CodePoint := s.toList.map codePoint

/-- An escape by UTF-16 unit. -/
def unitEscape (n : Nat) : List Char := Text.backslash :: 'u' :: Text.hexDigits 4 n

/-- One code point inside the quotes of a JSON text. -/
def escape (p : CodePoint) : List Char :=
  let n := p.val
  if n = 0x22 ∨ n = 0x5c then [Text.backslash, Char.ofNat n]
  else if n = 0x0a then [Text.backslash, 'n']
  else if n = 0x0d then [Text.backslash, 'r']
  else if n = 0x09 then [Text.backslash, 't']
  else if n = 0x0c then [Text.backslash, 'f']
  else if n = 0x08 then [Text.backslash, 'b']
  else if 0x20 ≤ n ∧ n ≤ 0x7e then [Char.ofNat n]
  else if n < 0x10000 then unitEscape n
  else
    unitEscape (0xd800 + (n - 0x10000) / 0x400) ++ unitEscape (0xdc00 + (n - 0x10000) % 0x400)

/-- Code points in quotes. -/
def quotedPoints (ps : List CodePoint) : String :=
  String.ofList (Text.doubleQuote :: (ps.flatMap escape ++ [Text.doubleQuote]))

/-- A text in quotes. -/
def quoted (s : String) : String := quotedPoints (codePoints s)

/-- The form of a double, whose special values have names. -/
def number (x : Double) : String :=
  match x with
  | .nan => "NaN"
  | .infinity true => "-Infinity"
  | .infinity false => "Infinity"
  | x => x.text

/-- The text of a key. -/
def keyText : Value → Except Failure String
  | .text s => .ok s
  | .float x => .ok (number x)
  | .bool b => .ok (if b then "true" else "false")
  | .null => .ok "null"
  | .int n => showInteger n
  | k => .error (.unwritableKey k.qualifiedTypeName)

/-- An object from its keys in order, each with the result of writing its value. -/
def objectText (es : List (Value × Except Failure String)) : Except Failure String := do
  let parts ← es.mapM fun e ↦ do
    let key ← keyText e.1
    return quoted key ++ ": " ++ (← e.2)
  return openBrace ++ joinWith ", " parts ++ closeBrace

end Json

namespace Value

mutual

/-- The JSON text of a value. -/
def jsonTextWithin : (room : Nat) → Value → Except Failure String
  | _, null => .ok "null"
  | _, bool b => .ok (if b then "true" else "false")
  | _, int n => showInteger n
  | _, float x => .ok (Json.number x)
  | _, text s => .ok (Json.quoted s)
  | 0, list _ | 0, tuple _ | 0, dict _ => .error (.nestedTooDeep .written)
  | room + 1, list xs | room + 1, tuple xs => do
    return "[" ++ joinWith ", " (← jsonItemsWithin room xs) ++ "]"
  | room + 1, dict es => do
    Json.objectText (← sortWith (fun a b ↦ less a.1 b.1) (jsonEntriesWithin room es))
  | room, v => do
    let shown ← displayWithin room v
    if room = 0 then .error (.nestedTooDeep .written) else return Json.quoted shown

/-- The JSON texts of several values. -/
def jsonItemsWithin : (room : Nat) → List Value → Except Failure (List String)
  | _, [] => .ok []
  | room, v :: r => do
    let shown ← jsonTextWithin room v
    return shown :: (← jsonItemsWithin room r)

/-- The keys of a mapping, each with the result of writing its value. -/
def jsonEntriesWithin :
    (room : Nat) → List (Value × Value) → List (Value × Except Failure String)
  | _, [] => []
  | room, (k, v) :: r => (k, jsonTextWithin room v) :: jsonEntriesWithin room r

end

/-- The JSON text of a value, as deep as the platform goes. -/
def jsonText [Platform] (v : Value) : Except Failure String :=
  jsonTextWithin Platform.writtenDepth v

end Value
end Rulebook
