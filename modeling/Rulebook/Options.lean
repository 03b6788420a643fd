import Rulebook.Value.Display
import Rulebook.Value.Equality

/-!
# Options for validating records

The options are a context that every rule gets to see and a builder for messages.  They may be given
as a mapping, or not at all; of two sets of options, what the second one says wins.
-/

set_option autoImplicit false

namespace Rulebook

/-- The options for validating a record; either may be null. -/
structure Options where
  context : Value
  builder : Value

namespace Options

/-- Nothing is said. -/
def none : Options := ⟨.null, .null⟩

/-- The options as a value. -/
def toValue (o : Options) : Value := .options o.context o.builder

/-- Reads options from a value. -/
def coerce [Platform] : Value → Except Failure Options
  | .null => .ok none
  | .options context builder => .ok ⟨context, builder⟩
  | .dict es =>
    .ok ⟨(Value.lookup (.text "context") es).getD .null,
      (Value.lookup (.text "error_message_builder") es).getD .null⟩
  | v => do throw (.unsupportedOptions (← v.literal))

/-- The second value, unless it is null. -/
def later (a b : Value) : Value := if b.isNull then a else b

/-- Options laid over others. -/
def merge (o p : Options) : Options := ⟨later o.context p.context, later o.builder p.builder⟩

/-- An attribute of a value that is taken for options. -/
def field (v : Value) (name : String) : Except Failure Value :=
  match v with
  | .record fs =>
    match fs.lookup name with
    | some w => .ok w
    | Option.none => .error (.noAttribute v.qualifiedTypeName name)
  | v => .error (.noAttribute v.qualifiedTypeName name)

/-- The options that are stored as a value. -/
def ofStored : Value → Except Failure Options
  | .null => .ok none
  | .options context builder => .ok ⟨context, builder⟩
  | v => do return ⟨← field v "context", ← field v "error_message_builder"⟩

end Options
end Rulebook
