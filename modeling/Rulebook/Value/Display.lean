import Rulebook.Failure
import Rulebook.Platform
import Rulebook.Number.Shortest

/-!
# Showing values

`display` is the text of a value in a message: a text stands for itself, everything else has its
literal form.  `literal` is the form inside a composite value, where texts are quoted.  Both fail
when a value somewhere inside is unprintable, with the failure that value names, and when the value is
nested too deep for the platform: `literalWithin` and `displayWithin` show a value with room for a number
of levels below it.

A failure shows its arguments: none, the text of the only one, or all of them as a tuple.  The text
of a missing key is its literal form, so that a blank key can be seen.
-/

set_option autoImplicit false

namespace Rulebook

/-- The greatest number of digits of an integer that is shown. -/
def maxShownDigits : Nat := 4300

/-- The digits of an integer, behind its sign. -/
def integerText (n : Int) : String :=
  let ds := Nat.toDigits 10 n.natAbs
  String.ofList (if n < 0 then '-' :: ds else ds)

/-- The text of an integer, if it is not too long. -/
def showInteger (n : Int) : Except Failure String :=
  if maxShownDigits < (Nat.toDigits 10 n.natAbs).length then .error .integerTooLong
  else .ok (integerText n)

/-- Texts with a separator between neighbours. -/
def joinWith (separator : String) (parts : List String) : String :=
  String.intercalate separator parts

/-- An opening brace. -/
def openBrace : String := "\x7b"

/-- A closing brace. -/
def closeBrace : String := "\x7d"

namespace Value

mutual

/-- The form of a value inside a composite value. -/
def literalWithin : (room : Nat) → Value → Except Failure String
  | _, null => .ok "None"
  | _, bool b => .ok (if b then "True" else "False")
  | _, int n => showInteger n
  | _, float x => .ok x.text
  | _, decimal d => .ok ("Decimal('" ++ d.text ++ "')")
  | _, text s => .ok (Text.quote s)
  | _, bytes bs => .ok (Text.quoteBytes bs)
  | room, list xs => do return "[" ++ joinWith ", " (← literalsWithin room xs) ++ "]"
  | room, tuple xs => do
    match ← literalsWithin room xs with
    | [x] => return "(" ++ x ++ ",)"
    | shown => return "(" ++ joinWith ", " shown ++ ")"
  | room, set xs => do
    match ← literalsWithin room xs with
    | [] => return "set()"
    | shown => return openBrace ++ joinWith ", " shown ++ closeBrace
  | room, dict es => do
    return openBrace ++ joinWith ", " (← literalEntriesWithin room es) ++ closeBrace
  | _, moment m => .ok m.quoted
  | room, record fs => do
    return "namespace(" ++ joinWith ", " (← literalFieldsWithin room fs) ++ ")"
  | room, failure k args => do
    return k.name ++ "(" ++ joinWith ", " (← literalsWithin room args) ++ ")"
  | _, unprintable k args => .error (.thrown k args)
  | _, rule r => .ok ("<function " ++ r.functionName ++ ">")
  | _, callable i n =>
    .ok (match n with | some n => "<function " ++ n ++ ">" | none => "<anon " ++ i ++ ">")
  | room, bound r _ => literalWithin room r
  | _, cls c => .ok ("<class '" ++ c.name ++ "'>")
  | _, instanceOf c => .ok ("<" ++ c.name ++ " object>")
  | room, attachment specs => do
    return "PropertyAnnotation([" ++ joinWith ", " (← literalsWithin room specs) ++ "])"
  | room, options context builder => do
    return "ValidateTargetOptions(context=" ++ (← literalWithin room context) ++
      ", error_message_builder=" ++ (← literalWithin room builder) ++ ")"

/-- The literal forms of several values, a level below the one they are in. -/
def literalsWithin : (room : Nat) → List Value → Except Failure (List String)
  | _, [] => .ok []
  | 0, _ :: _ => .error (.nestedTooDeep .shown)
  | room + 1, v :: r => do
    let shown ← literalWithin room v
    return shown :: (← literalsWithin (room + 1) r)

/-- The literal forms of the entries of a mapping. -/
def literalEntriesWithin : (room : Nat) → List (Value × Value) → Except Failure (List String)
  | _, [] => .ok []
  | 0, _ :: _ => .error (.nestedTooDeep .shown)
  | room + 1, (k, v) :: r => do
    let key ← literalWithin room k
    let shown ← literalWithin room v
    return (key ++ ": " ++ shown) :: (← literalEntriesWithin (room + 1) r)

/-- The literal forms of named attributes. -/
def literalFieldsWithin : (room : Nat) → List (String × Value) → Except Failure (List String)
  | _, [] => .ok []
  | 0, _ :: _ => .error (.nestedTooDeep .shown)
  | room + 1, (n, v) :: r => do
    let shown ← literalWithin room v
    return (n ++ "=" ++ shown) :: (← literalFieldsWithin (room + 1) r)

end

/-- The text of a value in a message. -/
def displayWithin : (room : Nat) → Value → Except Failure String
  | _, text s => .ok s
  | _, decimal d => .ok d.text
  | _, moment m => .ok m.text
  | _, failure _ [] => .ok ""
  | room, failure k [a] => if k = .keyError then literalWithin room a else displayWithin room a
  | room, failure _ args => literalWithin room (.tuple args)
  | room, v => literalWithin room v
termination_by structural _ v => v

variable [Platform]

/-- The form of a value inside a composite value, as deep as the platform goes. -/
def literal (v : Value) : Except Failure String := literalWithin Platform.shownDepth v

/-- The text of a value in a message, as deep as the platform goes. -/
def display (v : Value) : Except Failure String := displayWithin Platform.shownDepth v

end Value

namespace Failure

/-- A failure as a value. -/
def toValue (f : Failure) : Value := .failure f.kind f.arguments

variable [Platform]

/-- The text of a failure. -/
def text (f : Failure) : Except Failure String := f.toValue.display

/-- The form of a failure in a log. -/
def shown (f : Failure) : Except Failure String := f.toValue.literal

end Failure
end Rulebook
