import Rulebook.Json.Grammar
import Rulebook.Pattern.Match
import Rulebook.Pattern.Reader
import Rulebook.Rule.Context

/-!
# Rules on the form of texts

Most forms are given by patterns, which are written down here as values and must match from the first
character on.  At their end stands the anchor for the end of the last line: a line feed that ends the
text is not looked at.
-/

set_option autoImplicit false

namespace Rulebook

/-! ## Building patterns -/

namespace Pattern

/-- The code points between two characters. -/
def between (low high : Char) : CharItem := .range low.toNat high.toNat

/-- One entry for each of some characters. -/
def each (cs : String) : List CharItem := cs.toList.map fun c ↦ .range c.toNat c.toNat

/-- One character of some kinds. -/
def oneOf (rule : CaseRule) (items : List CharItem) : Pattern := .char ⟨false, rule, items⟩

/-- One character that is not of some kinds. -/
def noneOf (rule : CaseRule) (items : List CharItem) : Pattern := .char ⟨true, rule, items⟩

/-- A text. -/
def literal (rule : CaseRule) (s : String) : Pattern :=
  sequence (s.toList.map fun c ↦ .char (.single rule c.toNat))

/-- A pattern a fixed number of times. -/
def times (n : Nat) (p : Pattern) : Pattern := .repeated .greedy n (some n) p

/-- A pattern at least some number of times. -/
def least (n : Nat) (p : Pattern) : Pattern := .repeated .greedy n none p

end Pattern

/-! ## The forms -/

namespace Form
open Pattern

/-- The letters of ASCII. -/
def letters : List CharItem := [between 'a' 'z', between 'A' 'Z']

/-- The digits of ASCII. -/
def digits : CharItem := between '0' '9'

/-- An e-mail address: local part, domain, and a last part of two or more letters. -/
def email : Pattern := sequence [
  .anchor .textStart,
  least 1 (oneOf .exact (letters ++ [digits] ++ each "._%+-")),
  literal .exact "@",
  least 1 (oneOf .exact (letters ++ [digits] ++ each ".-")),
  literal .exact ".",
  least 2 (oneOf .exact letters),
  .anchor .lastLineEnd]

/-- A web address.  No blank occurs in it, and what follows the slashes begins with none of five
special characters. -/
def url : Pattern := sequence [
  .anchor .textStart,
  literal .anyCase "http",
  .repeated .greedy 0 (some 1) (literal .anyCase "s"),
  literal .anyCase "://",
  noneOf .anyCase (.kind .space false false :: each "/$.?#"),
  .char (.any false),
  least 0 (noneOf .anyCase [.kind .space false false]),
  .anchor .lastLineEnd]

/-- One or more characters that may occur in the name of a file. -/
def fileName : Pattern := sequence [
  .anchor .textStart,
  least 1 (noneOf .exact (each "\\/:*?\"<>|")),
  .anchor .lastLineEnd]

/-- A text that begins with a point. -/
def leadingPoint : Pattern := sequence [.anchor .textStart, literal .exact "."]

/-- The name of a device, which may be followed by a point. -/
def deviceName : Pattern :=
  let numbered (s : String) : Pattern :=
    sequence [literal .anyCase s, oneOf .anyCase [digits]]
  sequence [
    .anchor .textStart,
    alternatives [literal .anyCase "nul", literal .anyCase "prn", literal .anyCase "con",
      numbered "lpt", numbered "com"],
    alternatives [literal .anyCase ".", .anchor .lastLineEnd]]

/-- A universally unique identifier of one of the versions 1 to 5. -/
def uuid : Pattern :=
  let hex : Pattern := oneOf .anyCase [digits, between 'a' 'f']
  let dash : Pattern := literal .anyCase "-"
  sequence [
    .anchor .textStart, times 8 hex, dash, times 4 hex, dash,
    oneOf .anyCase [between '1' '5'], times 3 hex, dash,
    oneOf .anyCase (each "89ab"), times 3 hex, dash, times 12 hex, .anchor .lastLineEnd]

/-- A colour: a hash and three, four, six or eight hexadecimal digits. -/
def hexColor : Pattern :=
  let hex : Pattern := oneOf .exact [between 'A' 'F', between 'a' 'f', digits]
  sequence [
    .anchor .textStart, literal .exact "#",
    alternatives [times 3 hex, times 4 hex, times 6 hex, times 8 hex],
    .anchor .lastLineEnd]

end Form

/-! ## The rules -/

namespace RuleContext

/-- Whether a text may be the name of a file. -/
def isFileName (s : String) : Bool :=
  !Text.isBlankText s && Form.fileName.matchesStart s && !Form.leadingPoint.matchesStart s &&
    !Form.deviceName.matchesStart s

section

variable [Platform]

/-- The value is of a form; values that are empty or no texts pass. -/
def optionalForm (ctx : RuleContext) (p : Pattern) (key : String) : Judgement :=
  match ctx.value with
  | .text s => ctx.require (s.isEmpty || p.matchesStart s) key
  | _ => .ok .pass

/-- The value is a text of a form. -/
def form (ctx : RuleContext) (p : Pattern) (key : String) : Judgement :=
  ctx.require (ctx.value.text?.any p.matchesStart) key

/-- The value is an e-mail address. -/
def email (ctx : RuleContext) : Judgement := ctx.optionalForm Form.email "validator.email"

/-- The value is a web address. -/
def url (ctx : RuleContext) : Judgement := ctx.optionalForm Form.url "validator.url"

/-- The value may be the name of a file. -/
def fileName (ctx : RuleContext) : Judgement := do
  let message ← ctx.translate "validator.fileName" []
  return .ofBool (ctx.value.text?.any isFileName) message

/-- The value is a universally unique identifier. -/
def uuid (ctx : RuleContext) : Judgement := ctx.form Form.uuid "validator.uuid"

/-- The value is a colour. -/
def hexColor (ctx : RuleContext) : Judgement := ctx.form Form.hexColor "validator.hexColor"

/-- The value is a text that holds a JSON document. -/
def json (ctx : RuleContext) : Judgement := do
  let isJson ← match ctx.value with
    | .text s => Json.isDocument s
    | _ => pure false
  ctx.require isJson "validator.json"

/-- The value is a text in which the pattern of the first parameter is found. -/
def regex (ctx : RuleContext) : Judgement := do
  match ctx.params.head? with
  | some (.text written) =>
    if written.isEmpty then ctx.rejectParams "Regex"
    else
      match ← Pattern.ofText? written with
      | none => ctx.rejectParams "Regex"
      | some p =>
        if ctx.value.text?.any p.isFoundIn then return .pass
        else ctx.reject "validator.regex" [(.text "pattern", .text written)]
  | _ => ctx.rejectParams "Regex"

end

/-! ## Beginnings and endings -/

/-- The parameters that are texts and not empty. -/
def affixes (ctx : RuleContext) : List (List Char) :=
  ctx.params.filterMap fun p ↦
    match p with
    | .text s => if s.isEmpty then none else some s.toList
    | _ => none

variable [Platform]

/-- The value is a text that some parameter is a part of in a given way. -/
def affix (ctx : RuleContext) (isPart : List Char → List Char → Bool) (rule key param : String) :
    Judgement :=
  if ctx.params.isEmpty then ctx.rejectParams rule
  else if ctx.value.text?.any fun s ↦ ctx.affixes.any fun a ↦ isPart a s.toList then .ok .pass
  else ctx.reject key [(.text param, .list ctx.params)]

/-- The value is a text that begins with one of the parameters. -/
def startsWithOneOf (ctx : RuleContext) : Judgement :=
  ctx.affix List.isPrefixOf "StartsWithOneOf" "validator.startsWithOneOf" "prefixes"

/-- The value is a text that ends with one of the parameters. -/
def endsWithOneOf (ctx : RuleContext) : Judgement :=
  ctx.affix List.isSuffixOf "EndsWithOneOf" "validator.endsWithOneOf" "endings"

end RuleContext
end Rulebook
