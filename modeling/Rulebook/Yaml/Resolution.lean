import Rulebook.Failure
import Rulebook.Text.Parts

/-!
# What a plain scalar is

A scalar without a tag is a null, a truth value, a number, a day or a point in time, one of the two
special keys, or else a text, by its form.  `Tag` lists what a node can be, and `Tag.ofPlain` decides
it from the characters.
-/

set_option autoImplicit false

namespace Rulebook
namespace Yaml

/-- What a node is. -/
inductive Tag where
  | null | bool | int | float | binary | timestamp | text
  | sequence | mapping | set | orderedMapping | pairs
  /-- The key under which other mappings are merged in. -/
  | merge
  /-- The key for the value of a mapping that stands for a scalar. -/
  | default
  | unknown
deriving DecidableEq

namespace Tag

/-- The tag that a full name stands for. -/
def ofName (name : String) : Tag :=
  match name with
  | "tag:yaml.org,2002:null" => null
  | "tag:yaml.org,2002:bool" => bool
  | "tag:yaml.org,2002:int" => int
  | "tag:yaml.org,2002:float" => float
  | "tag:yaml.org,2002:binary" => binary
  | "tag:yaml.org,2002:timestamp" => timestamp
  | "tag:yaml.org,2002:str" => text
  | "tag:yaml.org,2002:seq" => sequence
  | "tag:yaml.org,2002:map" => mapping
  | "tag:yaml.org,2002:set" => set
  | "tag:yaml.org,2002:omap" => orderedMapping
  | "tag:yaml.org,2002:pairs" => pairs
  | "tag:yaml.org,2002:merge" => merge
  | "tag:yaml.org,2002:value" => default
  | _ => unknown

end Tag

/-! ## Numbers -/

/-- Whether a character is a digit or an underscore. -/
def isGrouped (c : Char) : Bool := c.isDigit || c == '_'

/-- The characters after an optional sign. -/
def unsigned : List Char → List Char
  | '+' :: r => r
  | '-' :: r => r
  | r => r

/-- Whether characters are digits and underscores, with a digit first. -/
def isDigitGroup : List Char → Bool
  | [] => false
  | c :: r => c.isDigit && r.all isGrouped

/-- The parts of a text between colons. -/
def colonParts (cs : List Char) : List (List Char) := Text.parts ':' cs

/-- Whether characters are the sixtieths in a number of base sixty. -/
def isSixtieth : List Char → Bool
  | [a] => a.isDigit
  | [a, b] => a.isDigit && decide (a ≤ '5') && b.isDigit
  | _ => false

/-- Whether a text is a whole number of base ten or sixty, without sign and leading zeros. -/
def isWholeBaseSixty (cs : List Char) : Bool :=
  match colonParts cs with
  | first :: rest =>
    isDigitGroup first && first.head? != some '0' && !rest.isEmpty && rest.all isSixtieth
  | [] => false

/-- Whether a text has the form of an integer. -/
def isInteger (text : List Char) : Bool :=
  match unsigned text with
  | '0' :: 'b' :: r => !r.isEmpty && r.all fun c ↦ c == '0' || c == '1' || c == '_'
  | '0' :: 'x' :: r =>
    !r.isEmpty && r.all fun c ↦
      isGrouped c || (decide ('a' ≤ c) && decide (c ≤ 'f')) || (decide ('A' ≤ c) && decide (c ≤ 'F'))
  | '0' :: r => r.all fun c ↦ c == '_' || (c.isDigit && decide (c ≤ '7'))
  | cs => isDigitGroup cs || isWholeBaseSixty cs

/-- Whether a text is the exponent of a float: nothing, or a letter, a sign and digits. -/
def isExponent : List Char → Bool
  | [] => true
  | e :: sign :: ds =>
    (e == 'e' || e == 'E') && (sign == '+' || sign == '-') && !ds.isEmpty && ds.all Char.isDigit
  | _ => false

/-- The characters before a point, and those behind it. -/
def atPoint (cs : List Char) : Option (List Char × List Char) :=
  match cs.dropWhile (· != '.') with
  | '.' :: r => some (cs.takeWhile (· != '.'), r)
  | _ => none

/-- Whether a text has the form of a float.  A point is required. -/
def isFloat (text : List Char) : Bool :=
  let cs := unsigned text
  let s := String.ofList cs
  if s = ".inf" ∨ s = ".Inf" ∨ s = ".INF" then true
  else if text = cs ∧ (s = ".nan" ∨ s = ".NaN" ∨ s = ".NAN") then true
  else
    match atPoint cs with
    | none => false
    | some ([], fraction) =>
      text == cs && isDigitGroup (fraction.takeWhile isGrouped) &&
        isExponent (fraction.dropWhile isGrouped)
    | some (whole, fraction) =>
      if isDigitGroup whole then isExponent (fraction.dropWhile isGrouped)
      else
        match colonParts whole with
        | first :: rest =>
          isDigitGroup first && !rest.isEmpty && rest.all isSixtieth && fraction.all isGrouped
        | [] => false

/-! ## Days and points in time -/

/-- The parts of a day or a point in time, as they are written. -/
structure Timestamp where
  year : List Char
  month : List Char
  day : List Char
  /-- Hour, minute, second and the digits of the fraction. -/
  time : Option (List Char × List Char × List Char × List Char)
  /-- Whether the clock is ahead (`false`) or behind, by hours and minutes; no sign for universal
  time. -/
  zone : Option (Option Bool × List Char × List Char)

/-- The digits at the front, which must be between `least` and `most`. -/
def digits? (least most : Nat) (cs : List Char) : Option (List Char × List Char) :=
  let ds := (cs.take most).takeWhile Char.isDigit
  if least ≤ ds.length then some (ds, cs.drop ds.length) else none

/-- The characters after a given one. -/
def after? (c : Char) : List Char → Option (List Char)
  | d :: r => if c = d then some r else none
  | [] => none

/-- Whether a character is a space or a tab. -/
def isInlineBlank (c : Char) : Bool := c == ' ' || c == '\t'

/-- A time zone and nothing behind it. -/
def zone? (cs : List Char) : Option (Option (Option Bool × List Char × List Char)) :=
  match cs with
  | [] => some none
  | cs =>
    match cs.dropWhile isInlineBlank with
    | ['Z'] => some (some (none, [], []))
    | sign :: r =>
      if sign = '+' ∨ sign = '-' then do
        let (hour, r) ← digits? 1 2 r
        match r with
        | [] => some (some (some (sign == '-'), hour, []))
        | r => do
          let (minute, r) ← digits? 2 2 (← after? ':' r)
          if r.isEmpty then some (some (some (sign == '-'), hour, minute)) else none
      else none
    | [] => none

/-- The parts of a day or a point in time. -/
def timestamp? (cs : List Char) : Option Timestamp := do
  let (year, r) ← digits? 4 4 cs
  let (month, r) ← digits? 1 2 (← after? '-' r)
  let (day, r) ← digits? 1 2 (← after? '-' r)
  match r with
  | [] => return ⟨year, month, day, none, none⟩
  | c :: t =>
    let r ← if c = 'T' ∨ c = 't' then some t
      else if isInlineBlank c then some (t.dropWhile isInlineBlank) else none
    let (hour, r) ← digits? 1 2 r
    let (minute, r) ← digits? 2 2 (← after? ':' r)
    let (second, r) ← digits? 2 2 (← after? ':' r)
    let (fraction, r) := match r with
      | '.' :: r => (r.takeWhile Char.isDigit, r.dropWhile Char.isDigit)
      | r => ([], r)
    let zone ← zone? r
    return ⟨year, month, day, some (hour, minute, second, fraction), zone⟩

/-- Whether a text is a day, with two digits for month and day, or a point in time. -/
def isTimestamp (text : List Char) : Bool :=
  match timestamp? text with
  | some t => t.time.isSome || (t.month.length == 2 && t.day.length == 2)
  | none => false

/-! ## Choosing the tag -/

/-- The words for truth values. -/
def truthWords : List (String × Bool) :=
  [("yes", true), ("no", false), ("true", true), ("false", false), ("on", true), ("off", false)]

/-- Whether a text is a word for a truth value, in lower case, in capitals or with one capital. -/
def isTruth (text : List Char) : Bool :=
  let lower := text.map Char.toLower
  truthWords.any (fun w ↦ w.1.toList == lower) &&
    (text == lower || text == lower.map Char.toUpper ||
      text == (lower.take 1).map Char.toUpper ++ lower.drop 1)

/-- Whether a text means that there is no value. -/
def isNull (text : List Char) : Bool :=
  let s := String.ofList text
  s = "" ∨ s = "~" ∨ s = "null" ∨ s = "Null" ∨ s = "NULL"

/-- What a scalar without a tag is.  Three indicators, standing alone, are reserved. -/
def Tag.ofPlain (text : List Char) : Tag :=
  if isTruth text then .bool
  else if isFloat text then .float
  else if isInteger text then .int
  else if text = ['<', '<'] then .merge
  else if isNull text then .null
  else if isTimestamp text then .timestamp
  else if text = ['='] then .default
  else if text = ['!'] ∨ text = ['&'] ∨ text = ['*'] then .unknown
  else .text

end Yaml
end Rulebook
