import Rulebook.Request

/-!
# Reports on records

A `Report` says whether a record satisfies its schema.  When it does not, the report has one
`FieldError` for each property that failed, in the order of the schema, and a summary.

The message of a field comes from a builder, which may give any value.
-/

set_option autoImplicit false

namespace Rulebook

/-- A property that failed. -/
structure FieldError where
  property : Value
  /-- The message as the builder gave it. -/
  message : Value
  /-- The message of the rule. -/
  rawMessage : String
  ruleName : Option String
  params : List Value
  value : Value

/-- The result of validating a record. -/
structure Report where
  /-- Whether every property passed. -/
  success : Bool
  errors : List FieldError
  data : Value
  /-- The summary; empty when nothing failed. -/
  message : String

namespace FieldError

/-- A failed property as a mapping. -/
def payload (e : FieldError) : Value :=
  .dict [(.text "fieldName", e.property), (.text "propertyName", e.property),
    (.text "message", e.message), (.text "rawMessage", .text e.rawMessage),
    (.text "ruleName", RuleError.textOrNull e.ruleName), (.text "ruleParams", .list e.params)]

/-- The text of a failed property, which is its message. -/
def text (e : FieldError) : Except Failure String :=
  match e.message with
  | .text s => .ok s
  | v => .error (.messageNotText v.typeName)

end FieldError

namespace Report

/-- The report on a record without faults. -/
def passed (data : Value) : Report := ⟨true, [], data, ""⟩

/-- The messages of the failed properties. -/
def messages (r : Report) : List Value := r.errors.map FieldError.message

/-- The report as a mapping. -/
def payload (r : Report) : List Entry :=
  (.text "success", .bool r.success) ::
    if r.success then [(.text "data", r.data)]
    else
      [(.text "status", .text "error"), (.text "message", .text r.message),
        (.text "errors", .list (r.errors.map FieldError.payload))]

end Report

/-- How validating a record goes wrong when its faults are not to be reported. -/
inductive RecordError where
  /-- Some properties failed. -/
  | refused (message : String) (errors : List FieldError) (data : Value)
  /-- A failure that was not stopped on the way. -/
  | failed (f : Failure)

namespace RecordError

/-- The report on a record that is refused. -/
def report? : RecordError → Option Report
  | refused message errors data => some ⟨false, errors, data, message⟩
  | failed _ => none

end RecordError
end Rulebook
