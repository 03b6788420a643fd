import Rulebook.Host
import Rulebook.Spec

/-!
# Validating one value

A `Request` is a value, the specifications of the rules it has to pass, and what the rules may need
to know.  `Request.run` resolves the specifications and runs the rules one after another, up to the
first one that fails.

* When a specification does not resolve, no rule is run and the request is refused.
* Before the first rule the task pauses once.
* A rule fails when it comes to `false`, a text, or a failure, thrown or returned.  A failure that is
  thrown by a rule is stopped there, except for a cancellation.  A blank text has no message of its
  own, and so has `false`.
-/

set_option autoImplicit false

namespace Rulebook

/-- A value to be validated. -/
structure Request where
  value : Value
  rules : Value
  fieldName : Value
  context : Value
  extra : List Entry

/-- Why a request is refused. -/
structure RuleError where
  message : String
  request : Request
  /-- The rule that failed; none when a specification did not resolve. -/
  rule : Option RuleEntry
  ruleName : Option String
  rawRuleName : Option String
  params : List Value
  /-- The specifications that did not resolve. -/
  invalidRules : List Value

/-- How validating a value can go wrong. -/
inductive RequestError where
  | refused (e : RuleError)
  /-- A failure that was not stopped on the way. -/
  | failed (f : Failure)

namespace RuleError

/-- Whether it is a specification that is wrong and not the value. -/
def isInvalidRule (e : RuleError) : Bool := !e.invalidRules.isEmpty

/-- An optional text as a value. -/
def textOrNull (s : Option String) : Value :=
  match s with
  | some s => .text s
  | none => .null

/-- The refusal as a mapping. -/
def payload [Platform] (e : RuleError) : Except Failure (List Entry) := do
  let invalid ← e.invalidRules.mapM Value.display
  return [(.text "message", .text e.message), (.text "value", e.request.value),
    (.text "ruleName", textOrNull e.ruleName), (.text "rawRuleName", textOrNull e.rawRuleName),
    (.text "ruleParams", .list e.params), (.text "fieldName", e.request.fieldName),
    (.text "invalidRules", .list (invalid.map Value.text))]

end RuleError

namespace RuleEntry

/-- What is called when the rule is run. -/
def rule : RuleEntry → Value
  | named d => d.rule
  | bare f => f

/-- The name by which the rule was found. -/
def name? : RuleEntry → Option String
  | named d => some d.name
  | bare _ => none

/-- The specification as it was written. -/
def rawName? : RuleEntry → Option String
  | named d => some d.rawName
  | bare _ => none

/-- The parameters of the rule. -/
def params : RuleEntry → List Value
  | named d => d.params
  | bare _ => []

end RuleEntry

namespace Request

/-- What a rule of the request sees. -/
def contextFor (r : Request) (translator : Translator) (entry : RuleEntry) : RuleContext where
  value := r.value
  params := entry.params
  ruleName := entry.name?
  rawRuleName := entry.rawName?
  fieldName := r.fieldName
  translatedName := (Value.lookup (.text "translated_name") r.extra).getD .null
  context := r.context
  rules := r.rules
  translator := some translator
  extra := r.extra

section

variable [Platform]

/-- The message of a failure without one of its own. -/
def defaultMessage (translator : Translator) (ctx : RuleContext) (rule : Value) :
    Except Failure String :=
  let label := (ctx.ruleName.or rule.callableName?).getD ""
  translator.translate "validator.invalidMessage"
    [(.text "rule", .text label), (.text "ruleName", RuleError.textOrNull ctx.ruleName),
      (.text "rawRuleName", RuleError.textOrNull ctx.rawRuleName),
      (.text "ruleParams", .list ctx.params), (.text "field", ctx.label),
      (.text "value", ctx.value)] none

/-- The text of a failure, or its name when it has none. -/
def failureMessage (f : Failure) : Except Failure String := do
  let s ← f.text
  return if s.isEmpty then f.kind.name else s

/-- The message with which what a rule came to fails; none when it passes. -/
def message? (translator : Translator) (ctx : RuleContext) (rule : Value) :
    Outcome → Except Failure (Option String)
  | .error f => do return some (← failureMessage f)
  | .ok (.failure kind args) => do return some (← failureMessage (.thrown kind args))
  | .ok (.text s) =>
    if Text.isBlankText s then do return some (← defaultMessage translator ctx rule)
    else .ok (some s)
  | .ok (.bool false) => do return some (← defaultMessage translator ctx rule)
  | .ok _ => .ok none

/-- The name of a rule in a log. -/
def logName (entry : RuleEntry) : Except Failure String :=
  match entry.name?.or entry.rule.callableName? with
  | some n => .ok n
  | none => entry.rule.display

/-- The log line of a rule that threw a failure. -/
def thrownLine (r : Request) (entry : RuleEntry) (f : Failure) : List LogLine :=
  LogLine.ofMessage .debug .pipeline do
    return "Rule '" ++ (← logName entry) ++ "' raised for field '" ++ (← r.fieldName.display) ++
      "': " ++ (← f.shown)

/-- The log line of specifications that do not resolve. -/
def invalidLine (r : Request) (invalid : List Value) : List LogLine :=
  LogLine.ofMessage .debug .pipeline do
    return "Invalid rule reference(s) for field '" ++ (← r.fieldName.display) ++ "': " ++
      (← (Value.list invalid).display)

end

/-- What a specification that does not resolve is called in a message. -/
def invalidName : Value → String
  | .text s => if s.isEmpty then "unnamed rule" else s
  | _ => "unnamed rule"

/-- The part of a message that is about one specification that does not resolve. -/
def invalidPart [Platform] (translator : Translator) (v : Value) : Except Failure String :=
  translator.translate "validator.invalidRule" [(.text "rule", .text (invalidName v))] none

/-- What stands between the parts of a message. -/
def separator [Platform] (translator : Translator) : Except Failure String := do
  let key := "validator.separators.multiple"
  let s ← translator.translate key [] none
  return if s = key then ", " else s

/-- The message of specifications that do not resolve: one part for each of them. -/
def invalidMessage [Platform] (translator : Translator) (invalid : List Value) :
    Except Failure String := do
  let between ← separator translator
  let parts ← invalid.mapM (invalidPart translator)
  return joinWith between parts

/-- The refusal of a request whose specifications do not resolve. -/
def invalidError [Platform] (r : Request) (translator : Translator) (invalid : List Value) :
    RequestError :=
  match invalidMessage translator invalid with
  | .error f => .failed f
  | .ok message =>
    .refused { message, request := r, rule := none, ruleName := none, rawRuleName := none
               params := [], invalidRules := invalid }

/-- The refusal of a request by a rule. -/
def ruleError (r : Request) (entry : RuleEntry) (message : String) : RequestError :=
  .refused { message, request := r, rule := some entry, ruleName := entry.name?
             rawRuleName := entry.rawName?, params := entry.params, invalidRules := [] }

/-- The events that log lines are. -/
def logged (lines : List LogLine) : List Event := lines.map .logged

/-- The end of validating a value: nothing to object, or the reason for refusing it. -/
abbrev Ending := Option RequestError

variable [Platform]

/-- What follows from what a rule came to: nothing when it passes. -/
def conclude (r : Request) (translator : Translator) (entry : RuleEntry) (outcome : Outcome) :
    Ending :=
  match message? translator (r.contextFor translator entry) entry.rule outcome with
  | .error f => some (.failed f)
  | .ok none => none
  | .ok (some message) => some (r.ruleError entry message)

/-- What happens when a rule has come to something.  A cancellation is not stopped. -/
def afterRule (r : Request) (translator : Translator) (entry : RuleEntry) :
    Outcome → Task Event Ending
  | .error f =>
    if f.isOrdinary then
      .done (logged (r.thrownLine entry f)) (r.conclude translator entry (.error f))
    else .done [] (some (.failed f))
  | .ok v => .done [] (r.conclude translator entry (.ok v))

/-- Runs one rule. -/
def runEntry (r : Request) (host : Host) (translator : Translator) (entry : RuleEntry) :
    Task Event Ending :=
  (host.runRule entry.rule (r.contextFor translator entry)).bind (r.afterRule translator entry)

/-- Runs rules one after another, up to the first one that fails. -/
def runEntries (r : Request) (host : Host) (translator : Translator) :
    List RuleEntry → Task Event Ending
  | [] => .done [] none
  | entry :: rest =>
    (r.runEntry host translator entry).bind fun ending ↦
      match ending with
      | some e => .done [] (some e)
      | none => r.runEntries host translator rest

/-- Validates a value. -/
def run (r : Request) (host : Host) (registry : Registry) (translator : Translator) :
    Task Event Ending :=
  let (parsed, lines) := Spec.resolveAll registry r.rules
  if !parsed.invalid.isEmpty then
    .done (logged (lines ++ r.invalidLine parsed.invalid))
      (some (r.invalidError translator parsed.invalid))
  else if parsed.rules.isEmpty then .done (logged lines) none
  else .pause (logged lines) (r.runEntries host translator parsed.rules)

end Request
end Rulebook
