import Rulebook.Log
import Rulebook.Value.Equality

/-!
# The registry of rules

A registry binds names to rules.  An alias is a second name: it resolves to whatever its canonical
name is bound to at the time, unless a rule is bound to the alias itself.

`find?` resolves a name, and `bindings` lists every name that resolves, aliases first.  Names and
rules that are handed in may be any values; those that make no sense are refused and change nothing.
-/

set_option autoImplicit false

namespace Rulebook

/-- Names bound to rules, and aliases bound to names. -/
structure Registry where
  rules : List (String × Value)
  aliases : List (String × String)

/-- An association list with a value put under a key; a key that is there keeps its place. -/
def putKey {α : Type} (key : String) (v : α) : List (String × α) → List (String × α)
  | [] => [(key, v)]
  | (k, w) :: r => if k = key then (k, v) :: r else (k, w) :: putKey key v r

namespace Registry

/-- The registry without rules. -/
def empty : Registry := ⟨[], []⟩

/-- The rule bound to a name itself. -/
def direct? (r : Registry) (name : String) : Option Value := r.rules.lookup name

/-- The rule that a name resolves to. -/
def find? (r : Registry) (name : String) : Option Value :=
  (r.direct? name).or ((r.aliases.lookup name).bind r.direct?)

/-- The rule that a value resolves to, if it is a name at all. -/
def findValue? (r : Registry) : Value → Option Value
  | .text name => r.find? name
  | _ => none

/-- Whether a name resolves. -/
def isRegistered (r : Registry) (name : Value) : Bool := (r.findValue? name).isSome

/-- The name that a value stands for, unless it is no text or blank. -/
def name? : Value → Option String
  | .text s => if Text.isBlankText s then none else some s
  | _ => none

/-- Binds a rule to a name, in place of one that is bound to it. -/
def bind (r : Registry) (name : String) (rule : Value) : Registry :=
  { r with rules := putKey name rule r.rules }

/-- The log line of a rule that takes the place of another one. -/
def replacedLine (r : Registry) (name : String) (rule : Value) : List LogLine :=
  match r.direct? name with
  | some previous =>
    if previous.isSameCallable rule then []
    else
      [⟨.debug, .registry, "Rule '" ++ name ++ "' re-registered, previous binding replaced"⟩]
  | none => []

/-- Registers a rule under a name. -/
def register [Platform] (r : Registry) (name rule : Value) :
    Except Failure (Registry × List LogLine) := do
  match name? name with
  | none => throw (.blankRuleName (← name.literal))
  | some n =>
    if rule.isCallable then return (r.bind n rule, r.replacedLine n rule)
    else throw (.uncallableRule n)

/-- Registers rules under names, one after another.  The first one that is refused ends this. -/
def registerEach [Platform] : List Entry → Registry → List LogLine × Except Failure Registry
  | [], r => ([], .ok r)
  | (name, rule) :: rest, r =>
    match r.register name rule with
    | .error f => ([], .error f)
    | .ok (r, lines) =>
      let (more, made) := registerEach rest r
      (lines ++ more, made)

/-- A registry with the rules of a mapping. -/
def ofEntries [Platform] (es : List Entry) : List LogLine × Except Failure Registry :=
  registerEach es empty

/-- Makes a name resolve to whatever another name is bound to. -/
def addAlias [Platform] (r : Registry) (aliased canonical : Value) : Except Failure Registry := do
  match name? aliased with
  | none => throw (.blankAlias (← aliased.literal))
  | some a =>
    match canonical with
    | .text c =>
      if (r.direct? c).isSome then return { r with aliases := putKey a c r.aliases }
      else throw (.unknownCanonical a c)
    | v =>
      match v.keyFailure? with
      | some f => throw f
      | none => throw (.unknownCanonical a (← v.display))

/-- Every name that resolves, with the rule it resolves to: aliases first. -/
def bindings (r : Registry) : List (String × Value) :=
  let aliased := r.aliases.filterMap fun e ↦ (r.direct? e.2).map fun f ↦ (e.1, f)
  r.rules.foldl (fun acc e ↦ putKey e.1 e.2 acc) aliased

/-- Every name that resolves, in order. -/
def names (r : Registry) : List String :=
  (r.bindings.map (·.1)).mergeSort fun a b ↦ decide (a ≤ b)

/-! ## The standard rules -/

/-- Whether a name may be bound: any name when bindings are overwritten, and otherwise one that does
not resolve. -/
def isFree (overwrite : Bool) (r : Registry) (name : String) : Bool :=
  overwrite || (r.find? name).isNone

/-- Binds the standard rules to their names, as far as these are free. -/
def bindEach (overwrite : Bool) : List StandardRule → Registry → Registry × List LogLine
  | [], r => (r, [])
  | s :: rest, r =>
    if isFree overwrite r s.name then
      let (bound, more) := bindEach overwrite rest (r.bind s.name (.rule s))
      (bound, r.replacedLine s.name (.rule s) ++ more)
    else bindEach overwrite rest r

variable [Platform]

/-- Makes the other spellings of standard rules resolve, as far as they are free.  The first one that
cannot be made to resolve ends this. -/
def aliasEach (overwrite : Bool) :
    List (String × StandardRule) → Registry → Registry × Option Failure
  | [], r => (r, none)
  | (spelling, s) :: rest, r =>
    if isFree overwrite r spelling then
      match r.addAlias (.text spelling) (.text s.name) with
      | .error f => (r, some f)
      | .ok r => aliasEach overwrite rest r
    else aliasEach overwrite rest r

/-- Registers the standard rules and their other spellings.  With `overwrite`, names that resolve
already are taken over too.  The answer is the registry, the log lines, and the failure that ended
it. -/
def registerStandard (r : Registry) (overwrite : Bool) :
    Registry × List LogLine × Option Failure :=
  let (bound, lines) := bindEach overwrite StandardRule.all r
  let (aliased, failure) := aliasEach overwrite StandardRule.spellings bound
  (aliased, lines, failure)

end Registry
end Rulebook
