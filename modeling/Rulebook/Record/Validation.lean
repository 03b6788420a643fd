import Rulebook.Record.Labels
import Rulebook.Record.Report
import Rulebook.Schema

/-!
# Validating records

Every property of the schema is validated by a task of its own (`propertyTask`); the tasks take turns
on one queue, and a property that fails does not keep the others from being validated.  Afterwards
the outcomes are put together in the order of the schema.

What a task comes to is nothing, when the property passed, or the property that failed, or a failure
that nothing stopped on the way, for instance one of the message builder.  The last one is reported
as a fault of the property too.
-/

set_option autoImplicit false

namespace Rulebook

/-- What is needed to validate records. -/
structure Validator where
  registry : Registry
  translator : Translator
  store : Store
  hierarchy : Hierarchy

namespace Record

/-- The fields of an object. -/
def fieldsOf : Value → List (String × Value)
  | .record fs => fs
  | _ => []

/-- The value of an attribute of an object; one that is missing counts as null. -/
def attributeOf (host : Host) (object : Value) (name : String) : Outcome :=
  match (fieldsOf object).lookup name with
  | some v => .ok v
  | none =>
    match host.attributeOf object name with
    | .ok v => .ok v
    | .error f => if f.kind = .missingAttribute then .ok .null else .error f

/-- The value of a property of a record, which may be nothing, a mapping or any object. -/
def property (host : Host) (data name : Value) : Outcome :=
  match data with
  | .null => .ok .null
  | .dict es => .ok ((Value.lookup name es).getD .null)
  | object =>
    match host.entryOf? object name with
    | some outcome => outcome
    | none =>
      match name with
      | .text n => attributeOf host object n
      | _ => .error (.attributeNameNotText name.qualifiedTypeName)

/-- What validating one property comes to. -/
abbrev PropertyOutcome := Except Failure (Option FieldError)

/-- A property with the rules for it and what goes with it. -/
structure PropertyCheck where
  name : Value
  rules : List Value
  data : Value
  /-- The display name. -/
  label : Value
  options : Options

/-- What a message builder is told. -/
def details (c : PropertyCheck) (value : Value) (message : String) (ruleName : Option String)
    (params : List Value) : List Entry :=
  [(.text "property_name", c.name), (.text "translated_name", c.label),
    (.text "message", .text message), (.text "rule_name", RuleError.textOrNull ruleName),
    (.text "rule_params", .list params), (.text "value", value), (.text "data", c.data)]

/-- The message when there is no builder. -/
def defaultMessage [Platform] (label : Value) (message : String) : Outcome := do
  return .text ("[" ++ (← label.display) ++ "] : " ++ message)

/-- The message for a property that failed. -/
def buildMessage [Platform] (host : Host) (c : PropertyCheck) (value : Value) (message : String)
    (ruleName : Option String) (params : List Value) : List Event × Outcome :=
  if c.options.builder.truthy then
    host.runBuilder c.options.builder c.label message (details c value message ruleName params)
  else ([], defaultMessage c.label message)

/-- What a property that failed with a message comes to. -/
def fault [Platform] (host : Host) (c : PropertyCheck) (value : Value) (message : String)
    (ruleName : Option String) (params : List Value) : Task Event PropertyOutcome :=
  let (events, built) := buildMessage host c value message ruleName params
  .done events (built.map fun m ↦
    some { property := c.name, message := m, rawMessage := message, ruleName, params, value })

/-- The request for a property. -/
def request (c : PropertyCheck) (value : Value) : Request where
  value := value
  rules := .list c.rules
  fieldName := c.name
  context := c.options.context
  extra := [(.text "property_name", c.name), (.text "translated_name", c.label),
    (.text "data", c.data)]

/-- What follows from how validating the value of a property ended. -/
def conclude [Platform] (host : Host) (c : PropertyCheck) (value : Value) :
    Request.Ending → Task Event PropertyOutcome
  | none => .done [] (.ok none)
  | some (.refused e) => fault host c value e.message e.ruleName e.params
  | some (.failed f) =>
    if f.isOrdinary then
      match Request.failureMessage f with
      | .ok message => fault host c value message none []
      | .error g => .done [] (.error g)
    else .done [] (.error f)

/-- Validates a property. -/
def propertyTask [Platform] (v : Validator) (host : Host) (c : PropertyCheck) :
    Task Event PropertyOutcome :=
  match property host c.data c.name with
  | .error f => .done [] (.error f)
  | .ok value =>
    ((request c value).run host v.registry v.translator).bind (conclude host c value)

/-- The failure that a task leaves behind when it ends with one.  A cancellation comes without its
arguments. -/
def settled (f : Failure) : Failure := if f.isOrdinary then f else .thrown .cancelled [.text ""]

/-- The fault that the outcome of a property is reported as, if it is one.  The value is read anew. -/
def faultOf [Platform] (host : Host) (data name : Value) :
    PropertyOutcome → Except Failure (Option FieldError)
  | .ok e => .ok e
  | .error f => do
    let raw ← (settled f).text
    let value ← property host data name
    let shown := if raw.isEmpty then (settled f).kind.name else raw
    return some { property := name, message := .text shown
                  rawMessage := raw, ruleName := none, params := [], value }

/-- The faults of several properties, in order. -/
def faults [Platform] (host : Host) (data : Value) :
    List (Value × PropertyOutcome) → Except Failure (List FieldError)
  | [] => .ok []
  | (name, outcome) :: r => do
    let e ← faultOf host data name outcome
    return e.toList ++ (← faults host data r)

/-- The names of the properties that failed. -/
def failedNames : (position : Nat) → List FieldError → Except Failure (List String)
  | _, [] => .ok []
  | i, e :: r =>
    match e.property with
    | .text s => do return s :: (← failedNames (i + 1) r)
    | v => .error (.joinedNotText i v.qualifiedTypeName)

/-- The summary of a record of which some properties failed. -/
def summary [Platform] (t : Translator) (count : Nat) : Except Failure String :=
  t.translate "validator.failedForNFields" [(.text "count", .int count)] none

/-- The report on a record from the faults of its properties, with the line it leaves in the log. -/
def report [Platform] (t : Translator) (c : ClassRef) (data : Value) (errors : List FieldError) :
    Except Failure (Report × List LogLine) := do
  if errors.isEmpty then return (.passed data, [])
  else
    let message ← summary t errors.length
    let names ← failedNames 0 errors
    let line := "Validation of " ++ c.name ++ " failed for " ++ toString errors.length ++
      " field(s): " ++ joinWith ", " names
    return (⟨false, errors, data, message⟩, [⟨.info, .record, line⟩])

/-- The checks of the properties of a schema. -/
def checks (labels : List Entry) (data : Value) (options : Options) (schema : Properties) :
    List PropertyCheck :=
  schema.map fun e ↦
    { name := e.1, rules := e.2, data, label := Labels.shown labels e.1, options }

/-- The outcome of the task of a number.  Every task has one. -/
def outcomeOf (steps : List (Task.Step Event PropertyOutcome)) (i : Nat) : PropertyOutcome :=
  (steps.findSome? (Task.Step.resultOf? i)).getD (.ok none)

/-- Properties with the outcomes of their tasks, which are counted from `i`. -/
def outcomes (steps : List (Task.Step Event PropertyOutcome)) :
    (i : Nat) → List PropertyCheck → List (Value × PropertyOutcome)
  | _, [] => []
  | i, c :: r => (c.name, outcomeOf steps i) :: outcomes steps (i + 1) r

variable [Platform]

/-- What the steps of the tasks of a record come to. -/
def conclusion (v : Validator) (host : Host) (target : ClassRef) (data : Value) (cs : List PropertyCheck)
    (steps : List (Task.Step Event PropertyOutcome)) : List Event × Except Failure Report :=
  let events := steps.filterMap Task.Step.event?
  match faults host data (outcomes steps 0 cs) with
  | .error f => (events, .error f)
  | .ok errors =>
    match report v.translator target data errors with
    | .error f => (events, .error f)
    | .ok (r, lines) => (events ++ Request.logged lines, .ok r)

/-- The checks that a schema asks for, with what the options and the display names say. -/
def prepare (v : Validator) (target : ClassRef) (data given : Value) (schema : Properties) :
    Except Failure (List PropertyCheck) := do
  let options ← Options.forClass v.store v.hierarchy target given
  if schema.isEmpty then return []
  else
    let labels ← Labels.ofTarget v.translator v.hierarchy target none
    return checks labels data options schema

/-- Validates a record of a class against a schema; `run` makes the tasks take turns. -/
def validateSchema (v : Validator) (host : Host) (target : ClassRef) (data given : Value)
    (run : List (Task Event PropertyOutcome) → List (Task.Step Event PropertyOutcome))
    (schema : Properties) : List Event × Except Failure Report :=
  match prepare v target data given schema with
  | .error f => ([], .error f)
  | .ok cs => conclusion v host target data cs (run (cs.map (propertyTask v host)))

/-- Validates a record against the schema of a class. -/
def validate (v : Validator) (host : Host) (target : ClassRef) (data given : Value) :
    List Event × Except Failure Report :=
  match Schema.ofClass v.store v.hierarchy target with
  | .error f => ([], .error f)
  | .ok schema => validateSchema v host target data given Task.runAll schema

/-- Validates a record against the schema of a class, and refuses it when some property failed. -/
def require (v : Validator) (host : Host) (target : ClassRef) (data given : Value) :
    List Event × Except RecordError Report :=
  let (events, outcome) := validate v host target data given
  (events, match outcome with
    | .error f => .error (.failed f)
    | .ok r => if r.success then .ok r else .error (.refused r.message r.errors r.data))

end Record
end Rulebook
