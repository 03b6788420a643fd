import Rulebook.Number.Numeral
import Rulebook.Value.Equality
import Rulebook.Yaml.Node

/-!
# The value of a YAML document

`Yaml.read` turns a text into a value: sequences into lists, mappings into mappings (with what a
merge key names put in front), scalars into what their tags say.

Several parts of a document may be wrong at once, and a wrong scalar is a failure of its own where a
wrong structure is a refusal.  The one that is reported is the least deeply nested, and of those the
first; so a result that went wrong carries the depth at which it did.
-/

set_option autoImplicit false

namespace Rulebook
namespace Yaml

/-! ## Scalars -/

/-- The quoted form of characters in a failure. -/
def shown (cs : List Char) : String := String.ofList (Text.quoteChars cs)

/-- The characters after the marker of a base, if it stands there. -/
def afterMarker (base : Nat) (cs : List Char) : List Char :=
  match cs with
  | '0' :: m :: r =>
    if (base = 2 ∧ m.toLower = 'b') ∨ (base = 8 ∧ m.toLower = 'o') ∨ (base = 16 ∧ m.toLower = 'x')
    then r else cs
  | cs => cs

/-- Whether a character is a digit of a base. -/
def isDigitOf (base : Nat) (c : Char) : Bool :=
  Pattern.Reader.isHex c && decide (Pattern.Reader.hexValue c < base)

/-- The integer that characters write in a base. -/
def integerIn (base : Nat) (cs : List Char) : Except Failure Int := do
  let (negative, unsigned) := Numeral.takeSign (Numeral.asciiDigits (Text.trimChars cs))
  let ds := afterMarker base unsigned
  if ds.isEmpty || !ds.all (isDigitOf base) then throw (.invalidNumeral base (shown cs))
  if base = 10 ∧ 4300 < ds.length then throw (.numeralTooLong ds.length)
  let n : Int := Pattern.Reader.valueIn base ds
  return if negative then -n else n

/-- The sum of parts by powers of sixty, the last part counted once. -/
def baseSixty (parts : List Int) : Int := parts.foldl (fun n p ↦ 60 * n + p) 0

/-- A text without its underscores, split into sign and rest. -/
def signedPart (text : String) : Except Failure (Bool × List Char) := do
  let cs := text.toList.filter (· != '_')
  if cs.isEmpty then throw .emptyNumeral
  return (cs.head? == some '-', unsigned cs)

/-- The value of an integer scalar. -/
def integer (text : String) : Except Failure Value := do
  let (negative, cs) ← signedPart text
  let n ← match cs with
    | ['0'] => pure 0
    | '0' :: 'b' :: r => integerIn 2 r
    | '0' :: 'x' :: r => integerIn 16 r
    | '0' :: _ => integerIn 8 cs
    | [] => throw .emptyNumeral
    | _ =>
      if cs.contains ':' then do
        let parts ← (colonParts cs).mapM (integerIn 10)
        pure (baseSixty parts)
      else integerIn 10 cs
  return .int (if negative then -n else n)

/-- The double that characters write. -/
def double (cs : List Char) : Except Failure Double :=
  match Double.ofText? (String.ofList cs) with
  | some x => .ok x
  | none => .error (.invalidFloat (shown cs))

/-- The sum of doubles by powers of sixty, rounded at every step from the last part on. -/
def doubleBaseSixty (parts : List Double) : Double :=
  (parts.reverse.foldl (fun acc x ↦ (acc.1.add (x.times acc.2), 60 * acc.2)) (Double.zero, 1)).1

/-- The value of a float scalar. -/
def float (text : String) : Except Failure Value := do
  let (negative, cs) ← signedPart text
  let cs := cs.map Char.toLower
  let x ←
    if cs = ".inf".toList then pure (Double.infinity false)
    else if cs = ".nan".toList then pure Double.nan
    else if cs.contains ':' then do
      let parts ← (colonParts cs).mapM double
      pure (doubleBaseSixty parts)
    else double cs
  return .float (if negative then x.negate else x)

/-- The value of a truth scalar. -/
def truth (text : String) : Except Failure Value :=
  let lower := String.ofList (text.toList.map Char.toLower)
  match truthWords.lookup lower with
  | some b => .ok (.bool b)
  | none => .error (.unknownTruth lower)

/-- The digits of a fraction as a number of millionths; later digits do not count. -/
def microseconds (ds : List Char) : Nat :=
  Numeral.digitsValue ((ds ++ List.replicate 6 '0').take 6)

/-- A time zone in minutes, which must be less than a day. -/
def zoneMinutes : Option (Option Bool × List Char × List Char) → Except Failure (Option Int)
  | none => .ok none
  | some (none, _, _) => .ok (some 0)
  | some (some behind, hour, minute) =>
    let n : Int := 60 * Numeral.digitsValue hour + Numeral.digitsValue minute
    let minutes := if behind then -n else n
    if n < 1440 then .ok (some minutes)
    else
      let seconds := Int.fmod (minutes * 60) 86400
      .error (.calendar ("offset must be a timedelta strictly between -timedelta(hours=24) and " ++
        "timedelta(hours=24), not datetime.timedelta(days=" ++
        toString (Int.fdiv (minutes * 60) 86400) ++
        (if seconds = 0 then "" else ", seconds=" ++ toString seconds) ++ ")."))

/-- A moment that is in the calendar. -/
def inCalendar (m : Moment) : Except Failure Moment :=
  if m.year < 1 then .error (.calendar ("year " ++ toString m.year ++ " is out of range"))
  else if m.month < 1 ∨ 12 < m.month then .error (.calendar "month must be in 1..12")
  else if m.day < 1 ∨ Moment.daysInMonth m.year m.month < m.day then
    .error (.calendar "day is out of range for month")
  else
    match m.clock with
    | none => .ok m
    | some c =>
      if 23 < c.hour then .error (.calendar "hour must be in 0..23")
      else if 59 < c.minute then .error (.calendar "minute must be in 0..59")
      else if 59 < c.second then .error (.calendar "second must be in 0..59")
      else .ok m

/-- The value of a timestamp scalar. -/
def timestamp (text : String) : Except Failure Value := do
  match timestamp? text.toList with
  | none => throw (.noAttribute "NoneType" "groupdict")
  | some t => do
    let n := Numeral.digitsValue
    let clock ← match t.time with
      | none => pure none
      | some (hour, minute, second, fraction) => do
        let zone ← zoneMinutes t.zone
        pure (some (Clock.mk (n hour) (n minute) (n second) (microseconds fraction) zone))
    return .moment (← inCalendar ⟨n t.year, n t.month, n t.day, clock⟩)

/-! ## Binary data -/

/-- The value of a digit of base 64. -/
def base64Digit? (c : Char) : Option Nat :=
  if 'A' ≤ c ∧ c ≤ 'Z' then some (c.toNat - 0x41)
  else if 'a' ≤ c ∧ c ≤ 'z' then some (c.toNat - 0x61 + 26)
  else if c.isDigit then some (c.toNat - 0x30 + 52)
  else if c = '+' then some 62
  else if c = '/' then some 63
  else none

/-- The bytes that digits of base 64 write; other characters do not count.  `group` has the digits of
the group of four that is being read, `pads` the padding seen since. -/
def base64 : (group : List Nat) → (pads : Nat) → (done : List UInt8) → List Char →
    Option (List UInt8)
  | group, _, done, [] => if group.isEmpty then some done.reverse else none
  | group, pads, done, c :: r =>
    if c = '=' then
      if 2 ≤ group.length then
        if 4 ≤ group.length + pads + 1 then some done.reverse else base64 group (pads + 1) done r
      else base64 group pads done r
    else
      match base64Digit? c, group with
      | none, _ => base64 group pads done r
      | some d, [] => base64 [d] 0 done r
      | some d, [a] => base64 [a, d] 0 ((a * 4 + d / 16).toUInt8 :: done) r
      | some d, [a, b] => base64 [a, b, d] 0 ((b % 16 * 16 + d / 4).toUInt8 :: done) r
      | some d, group => base64 [] 0 (((group.getLast?.getD 0) % 4 * 64 + d).toUInt8 :: done) r

/-! ## Mappings -/

namespace Node

/-- The tag of a node. -/
def tag : Node → Tag
  | scalar t _ | sequence t _ | mapping t _ => t

mutual

/-- The text of a scalar, or of what stands for one under the default key of a mapping. -/
def scalarText : Node → Option String
  | scalar _ s => some s
  | sequence .. => none
  | mapping _ es => defaultText es

/-- The text under the first default key. -/
def defaultText : List (Node × Node) → Option String
  | [] => none
  | (k, v) :: r => if k.tag = .default then scalarText v else defaultText r

end

mutual

/-- The entries of a mapping with those of merged mappings in front. -/
def merged : Node → Option (List (Node × Node))
  | mapping _ es => (mergedEntries es).map fun p ↦ p.1 ++ p.2
  | _ => none

/-- The entries that come from merge keys, and the others.  A default key is a text here. -/
def mergedEntries : List (Node × Node) → Option (List (Node × Node) × List (Node × Node))
  | [] => some ([], [])
  | (k, v) :: r =>
    if k.tag = .merge then do
      let here ← match v with
        | .sequence _ items => mergedItems items
        | v => merged v
      let (front, own) ← mergedEntries r
      return (here ++ front, own)
    else do
      let (front, own) ← mergedEntries r
      let key := match k with
        | .scalar .default s => .scalar .text s
        | k => k
      return (front, (key, v) :: own)

/-- The entries of several merged mappings, those of the last one first. -/
def mergedItems : List Node → Option (List (Node × Node))
  | [] => some []
  | n :: r => do
    let here ← merged n
    let later ← mergedItems r
    return later ++ here

end

mutual

/-- How deep a node is nested. -/
def height : Node → Nat
  | scalar .. => 0
  | sequence _ items => heightItems items + 1
  | mapping _ es => heightEntries es + 1

/-- The greatest height of some nodes. -/
def heightItems : List Node → Nat
  | [] => 0
  | n :: r => max n.height (heightItems r)

/-- The greatest height of the keys and values of a mapping. -/
def heightEntries : List (Node × Node) → Nat
  | [] => 0
  | (k, v) :: r => max (max k.height v.height) (heightEntries r)

end
end Node

/-! ## Putting the value together -/

/-- A result, or the depth and the reason of its going wrong. -/
abbrev Built := Except (Nat × Refusal)

/-- All results, or what went wrong least deep and first. -/
def together {α : Type} : List (Built α) → Built (List α)
  | [] => .ok []
  | x :: r =>
    match x, together r with
    | .ok a, .ok as => .ok (a :: as)
    | .ok _, .error e => .error e
    | .error e, .ok _ => .error e
    | .error e, .error f => .error (if e.1 ≤ f.1 then e else f)

/-- The outcome of reading a scalar at a depth. -/
def atDepth {α : Type} (depth : Nat) : Except Failure α → Built α
  | .ok a => .ok a
  | .error f => .error (depth, .failed f)

/-- The value of a scalar with a tag. -/
def scalarValue (depth : Nat) (tag : Tag) (text : String) : Built Value :=
  match tag with
  | .null => .ok .null
  | .bool => atDepth depth (truth text)
  | .int => atDepth depth (integer text)
  | .float => atDepth depth (float text)
  | .timestamp => atDepth depth (timestamp text)
  | .text => .ok (.text text)
  | .binary =>
    let cs := text.toList
    if cs.all fun c ↦ c.toNat < 0x80 then
      match base64 [] 0 [] cs with
      | some bs => .ok (.bytes bs)
      | none => .error (depth, .malformed)
    else .error (depth, .malformed)
  | _ => .error (depth, .malformed)

/-- Whether a node with a tag is a container, whatever it holds. -/
def Tag.isContainer : Tag → Bool
  | .sequence | .mapping | .set | .orderedMapping | .pairs => true
  | _ => false

/-- A key and its value, which go wrong together. -/
def pair (key value : Built Value) : Built (Value × Value) := do
  match ← together [key, value] with
  | [k, v] => return (k, v)
  | _ => throw (0, .malformed)

/-- The value of a node at a depth.  Containers cannot be keys. -/
def build : (fuel depth : Nat) → Node → Built Value
  | 0, depth, _ => .error (depth, .malformed)
  | fuel + 1, depth, n =>
    let inside := depth + 1
    let wrong {α : Type} : Built α := .error (inside, .malformed)
    let entries (n : Node) : Built (List (Value × Value)) :=
      match n.merged with
      | none => wrong
      | some es =>
        together (es.map fun e ↦
          if e.1.tag.isContainer then wrong
          else pair (build fuel inside e.1) (build fuel inside e.2))
    match n.tag with
    | .sequence =>
      match n with
      | .sequence _ items => (together (items.map (build fuel inside))).map .list
      | _ => wrong
    | .mapping => (entries n).map fun es ↦ .dict (Value.ofEntries es)
    | .set => (entries n).map fun es ↦ .set (Value.distinct (es.map (·.1)))
    | .orderedMapping | .pairs =>
      match n with
      | .sequence _ items =>
        (together (items.map fun item ↦
          match item with
          | .mapping _ [(k, v)] => pair (build fuel inside k) (build fuel inside v)
          | _ => wrong)).map fun es ↦ .list (es.map fun e ↦ .tuple [e.1, e.2])
      | _ => wrong
    | tag =>
      match n.scalarText with
      | some text => scalarValue depth tag text
      | none => .error (depth, .malformed)

/-- The value of a text; a text without a document is null. -/
def read (text : List Char) : Except Refusal Value := do
  match ← Node.ofTokens (tokens text) with
  | none => return .null
  | some n =>
    match build (n.height + 1) 0 n with
    | .ok v => return v
    | .error e => throw e.2

end Yaml
end Rulebook
