import Rulebook.Registry
import Rulebook.Text.Parts

/-!
# Specifications of rules

A rule is specified by its name with parameters in brackets (`"Length[3,5]"`), by a mapping from
names to lists of parameters, or by something that can be called.  `Spec.read` reads the first form,
and `Spec.resolveAll` resolves specifications of all forms against a registry: it gives the rules to
run, in order, and the specifications whose name does not resolve.
-/

set_option autoImplicit false

namespace Rulebook

/-- A rule found by its name. -/
structure Descriptor where
  name : String
  /-- The specification as it was written. -/
  rawName : String
  params : List Value
  rule : Value

/-- A rule to run: found by its name, or given itself. -/
inductive RuleEntry where
  | named (d : Descriptor)
  | bare (rule : Value)

/-- Specifications resolved: the rules to run and the specifications that do not resolve. -/
structure ParsedRules where
  rules : List RuleEntry
  invalid : List Value

namespace ParsedRules

/-- Nothing. -/
def empty : ParsedRules := ⟨[], []⟩

/-- One after the other. -/
def append (p q : ParsedRules) : ParsedRules := ⟨p.rules ++ q.rules, p.invalid ++ q.invalid⟩

/-- A rule to run. -/
def ofRule (r : RuleEntry) : ParsedRules := ⟨[r], []⟩

/-- A specification that does not resolve. -/
def ofInvalid (v : Value) : ParsedRules := ⟨[], [v]⟩

end ParsedRules

namespace Spec

/-! ## Specifications as texts -/

/-- The characters without one bracket at the end. -/
def dropClosing (cs : List Char) : List Char :=
  if cs.getLast? = some ']' then cs.dropLast else cs

/-- A parameter as it is meant: without its first closing bracket and the blanks around it. -/
def param (cs : List Char) : List Char := Text.trimChars (cs.erase ']')

/-- The name and the parameters of a specification. -/
def readChars (cs : List Char) : List Char × List (List Char) :=
  let text := Text.trimChars cs
  if text.contains '[' then
    let body := dropClosing text
    let name := body.takeWhile (· != '[')
    (Text.trimChars name, (Text.parts ',' (body.drop (name.length + 1))).map param)
  else (text, [])

/-- The name and the parameters of a specification. -/
def read (spec : String) : String × List String :=
  let (name, params) := readChars spec.toList
  (String.ofList name, params.map String.ofList)

/-! ## Resolving specifications -/

/-- Resolves a specification that is a text.  A blank one stands for nothing. -/
def resolveText (registry : Registry) (spec : String) : ParsedRules :=
  if Text.isBlankText spec then .empty
  else
    let (name, params) := read spec
    match registry.find? name with
    | none => .ofInvalid (.text spec)
    | some rule => .ofRule (.named ⟨name, spec, params.map Value.text, rule⟩)

variable [Platform]

/-- The log line of parameters that are dropped because they are no list. -/
def droppedLine (name : String) (params : Value) : List LogLine :=
  LogLine.ofMessage .debug .parsing do
    return "Rule '" ++ name ++ "' parameters " ++ (← params.literal) ++
      " are not a list and were dropped"

/-- Resolves one entry of a specification that is a mapping.  Parameters that are no list are
dropped. -/
def resolveEntry (registry : Registry) (name params : Value) : ParsedRules × List LogLine :=
  match name with
  | .text n =>
    match registry.find? n with
    | none => (.ofInvalid name, [])
    | some rule =>
      match params.items? with
      | some ps => (.ofRule (.named ⟨n, n, ps, rule⟩), [])
      | none =>
        (.ofRule (.named ⟨n, n, [], rule⟩), if params.isNull then [] else droppedLine n params)
  | _ => (.ofInvalid name, [])

/-- Resolves one specification.  What is neither a text nor a mapping and cannot be called stands for
nothing. -/
def resolve (registry : Registry) : Value → ParsedRules × List LogLine
  | .text spec => (resolveText registry spec, [])
  | .dict es =>
    es.foldl (fun acc e ↦
      let (parsed, lines) := resolveEntry registry e.1 e.2
      (acc.1.append parsed, acc.2 ++ lines)) (.empty, [])
  | v => (if v.isCallable then .ofRule (.bare v) else .empty, [])

/-- Resolves specifications; anything but a list or a tuple stands for none. -/
def resolveAll (registry : Registry) (specs : Value) : ParsedRules × List LogLine :=
  (specs.items?.getD []).foldl (fun acc spec ↦
    let (parsed, lines) := resolve registry spec
    (acc.1.append parsed, acc.2 ++ lines)) (.empty, [])

end Spec
end Rulebook
