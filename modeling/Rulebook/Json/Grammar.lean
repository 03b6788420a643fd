import Rulebook.Failure
import Rulebook.Platform

/-!
# Which texts are JSON documents

`Json.document` decides whether a text is one JSON value with blanks around it.  Beyond the standard
grammar the values `NaN`, `Infinity` and `-Infinity` are accepted.  An escape in a string may name
half of a surrogate pair; characters below U+0020 must be escaped.  An integer may have at most 4300
digits, and arrays and objects may be nested as deep as the platform goes: a deeper document is not
wrong, but a failure of its own.

Each reader takes the characters from where it starts and gives those after what it has read.  The
readers of values spend one unit of fuel per call, and every call consumes a character, so a fuel of
one more than the length of the document is enough.
-/

set_option autoImplicit false

namespace Rulebook
namespace Json

/-- The greatest number of digits of an integer. -/
def maxDigits : Nat := 4300

/-- Why a text is no document: it does not have the form, or an array or an object in it is nested too
deep. -/
inductive Fault where
  | malformed
  | nestedTooDeep (object : Bool)

/-- Whether a character may stand between the parts of a document. -/
def isSpace (c : Char) : Bool := c == ' ' || c == '\t' || c == '\n' || c == '\r'

/-- The characters after the blanks. -/
def skipSpace (cs : List Char) : List Char := cs.dropWhile isSpace

/-- Whether a character is a hexadecimal digit. -/
def isHexDigit (c : Char) : Bool :=
  c.isDigit || ('a' ≤ c && c ≤ 'f') || ('A' ≤ c && c ≤ 'F')

/-- The characters after a string, whose opening quote has been read. -/
def string : List Char → Except Fault (List Char)
  | [] => .error .malformed
  | '"' :: r => .ok r
  | '\\' :: 'u' :: a :: b :: c :: d :: r =>
    if isHexDigit a && isHexDigit b && isHexDigit c && isHexDigit d then string r
    else .error .malformed
  | '\\' :: c :: r =>
    if ['"', '\\', '/', 'b', 'f', 'n', 'r', 't'].contains c then string r else .error .malformed
  | c :: r => if c.toNat < 0x20 ∨ c = '\\' then .error .malformed else string r

/-- The characters after the fraction of a number, if there is one. -/
def fraction : List Char → Option (List Char)
  | '.' :: c :: r => if c.isDigit then some (r.dropWhile Char.isDigit) else none
  | _ => none

/-- The characters after the exponent of a number, if there is one. -/
def exponent : List Char → Option (List Char)
  | e :: r =>
    if e = 'e' ∨ e = 'E' then
      let digits := match r with
        | '+' :: t => t
        | '-' :: t => t
        | t => t
      match digits with
      | c :: t => if c.isDigit then some (t.dropWhile Char.isDigit) else none
      | [] => none
    else none
  | [] => none

/-- The characters after a number without its sign. -/
def unsignedNumber (cs : List Char) : Except Fault (List Char) :=
  let whole := match cs with
    | '0' :: _ => ['0']
    | cs => cs.takeWhile Char.isDigit
  let r := cs.drop whole.length
  if whole.isEmpty then .error .malformed
  else
    let afterFraction := (fraction r).getD r
    let afterExponent := (exponent afterFraction).getD afterFraction
    if afterExponent.length = r.length ∧ maxDigits < whole.length then .error .malformed
    else .ok afterExponent

/-- The characters after a word. -/
def word (w : String) (cs : List Char) : Except Fault (List Char) :=
  if w.toList.isPrefixOf cs then .ok (cs.drop w.length) else .error .malformed

/-- The characters after a value that is no container. -/
def scalar : List Char → Except Fault (List Char)
  | '"' :: r => string r
  | 'n' :: r => word "ull" r
  | 't' :: r => word "rue" r
  | 'f' :: r => word "alse" r
  | 'N' :: r => word "aN" r
  | 'I' :: r => word "nfinity" r
  | '-' :: 'I' :: r => word "nfinity" r
  | '-' :: r => unsignedNumber r
  | r => unsignedNumber r

mutual

/-- The characters after a value; there is room for a number of containers inside one another. -/
def value (room : Nat) : (fuel : Nat) → List Char → Except Fault (List Char)
  | 0, _ => .error .malformed
  | fuel + 1, '[' :: r =>
    match room with
    | 0 => .error (.nestedTooDeep false)
    | room + 1 =>
      match skipSpace r with
      | ']' :: t => .ok t
      | t => items room fuel t
  | fuel + 1, '{' :: r =>
    match room with
    | 0 => .error (.nestedTooDeep true)
    | room + 1 =>
      match skipSpace r with
      | '}' :: t => .ok t
      | t => members room fuel t
  | _ + 1, cs => scalar cs

/-- The characters after the items of an array and its closing bracket. -/
def items (room : Nat) : (fuel : Nat) → List Char → Except Fault (List Char)
  | 0, _ => .error .malformed
  | fuel + 1, cs =>
    match value room fuel cs with
    | .error e => .error e
    | .ok r =>
      match skipSpace r with
      | ']' :: t => .ok t
      | ',' :: t => items room fuel (skipSpace t)
      | _ => .error .malformed

/-- The characters after the members of an object and its closing brace. -/
def members (room : Nat) : (fuel : Nat) → List Char → Except Fault (List Char)
  | 0, _ => .error .malformed
  | fuel + 1, '"' :: cs =>
    match string cs with
    | .error e => .error e
    | .ok r =>
      match skipSpace r with
      | ':' :: t =>
        match value room fuel (skipSpace t) with
        | .error e => .error e
        | .ok u =>
          match skipSpace u with
          | '}' :: v => .ok v
          | ',' :: v => members room fuel (skipSpace v)
          | _ => .error .malformed
      | _ => .error .malformed
  | _ + 1, _ => .error .malformed

end

variable [Platform]

/-- Reads a whole document; the reason when it is refused. -/
def document (s : String) : Except Fault Unit :=
  let cs := s.toList
  match value Platform.documentDepth (2 * cs.length + 2) (skipSpace cs) with
  | .error e => .error e
  | .ok r => if (skipSpace r).isEmpty then .ok () else .error .malformed

/-- Whether a text is a JSON document; a failure when it is nested too deep to tell. -/
def isDocument (s : String) : Except Failure Bool :=
  match document s with
  | .ok () => .ok true
  | .error .malformed => .ok false
  | .error (.nestedTooDeep object) => .error (.nestedTooDeep (.read object))

end Json
end Rulebook
