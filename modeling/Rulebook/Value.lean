import Rulebook.Number.Decimal
import Rulebook.StandardRule
import Rulebook.Moment

/-!
# Values

Records come from documents, requests and programs, so the values that rules look at are of no fixed
type.  `Value` is the sum of all kinds: the scalars and containers of documents, opaque records,
failures handed around as values, and the things a rule list may hold beside names — rules
themselves, callables supplied by the caller, record classes and attachments.

A caller's callable is present by identity only.  What it does when it is run is not part of the
value; see `Rulebook.Host`.
-/

set_option autoImplicit false

namespace Rulebook

/-- The families of failures that can be told apart by name. -/
inductive FailureKind where
  | exception | valueError | keyError | runtimeError | typeError | zeroDivision | cancelled
  | engine | overflow | missingAttribute | index | recursion | decoding | invalidOperation
  | registration | catalog | ruleValidation | targetValidation
deriving DecidableEq

namespace FailureKind

/-- The name of a family of failures. -/
def name : FailureKind → String
  | exception => "Exception"
  | valueError => "ValueError"
  | keyError => "KeyError"
  | runtimeError => "RuntimeError"
  | typeError => "TypeError"
  | zeroDivision => "ZeroDivisionError"
  | cancelled => "CancelledError"
  | engine => "ValidationEngineError"
  | overflow => "OverflowError"
  | missingAttribute => "AttributeError"
  | index => "IndexError"
  | recursion => "RecursionError"
  | decoding => "UnicodeDecodeError"
  | invalidOperation => "InvalidOperation"
  | registration => "RuleRegistrationError"
  | catalog => "CatalogError"
  | ruleValidation => "RuleValidationError"
  | targetValidation => "TargetValidationError"

/-- Every family. -/
def all : List FailureKind :=
  [.exception, .valueError, .keyError, .runtimeError, .typeError, .zeroDivision, .cancelled,
    .engine, .overflow, .missingAttribute, .index, .recursion, .decoding, .invalidOperation, .registration,
    .catalog, .ruleValidation, .targetValidation]

/-- The family of a name. -/
def ofName? (s : String) : Option FailureKind := all.find? fun k ↦ k.name == s

end FailureKind

/-- A class, by identity: one that was declared, or the class of the plain values of a kind. -/
inductive ClassRef where
  | declared (id : Nat) (name : String)
  | native (name : String)
deriving DecidableEq

/-- The name of a class. -/
def ClassRef.name : ClassRef → String
  | .declared _ n => n
  | .native n => n

/-- A value of any kind. -/
inductive Value where
  | null
  | bool (b : Bool)
  | int (n : Int)
  | float (x : Double)
  | decimal (d : Decimal)
  | text (s : String)
  | bytes (bs : List UInt8)
  | list (items : List Value)
  | tuple (items : List Value)
  | set (items : List Value)
  | dict (entries : List (Value × Value))
  | moment (m : Moment)
  /-- An object with named attributes. -/
  | record (fields : List (String × Value))
  /-- A failure handed around as a value. -/
  | failure (kind : FailureKind) (args : List Value)
  /-- An object that fails when its text is asked for. -/
  | unprintable (kind : FailureKind) (args : List Value)
  | rule (r : StandardRule)
  /-- A callable supplied by the caller; some have no name. -/
  | callable (id : String) (name : Option String)
  /-- A rule whose parameters are fixed. -/
  | bound (rule : Value) (params : List Value)
  | cls (c : ClassRef)
  | instanceOf (c : ClassRef)
  /-- Rule specifications to be attached to a property. -/
  | attachment (specs : List Value)
  /-- Options for validating a whole record. -/
  | options (context : Value) (builder : Value)

/-- An entry of a mapping. -/
abbrev Entry := Value × Value

namespace Value

/-- The name of the class of a value. -/
def typeName : Value → String
  | null => "NoneType"
  | bool _ => "bool"
  | int _ => "int"
  | float _ => "float"
  | decimal _ => "Decimal"
  | text _ => "str"
  | bytes _ => "bytes"
  | list _ => "list"
  | tuple _ => "tuple"
  | set _ => "set"
  | dict _ => "dict"
  | moment m => if m.clock.isSome then "datetime" else "date"
  | record _ => "SimpleNamespace"
  | failure k _ => k.name
  | unprintable .. => "object"
  | rule _ => "function"
  | callable .. => "function"
  | bound .. => "function"
  | cls _ => "type"
  | instanceOf c => c.name
  | attachment _ => "PropertyAnnotation"
  | options .. => "ValidateTargetOptions"

/-- The name of the class of a value as messages about misuse spell it. -/
def qualifiedTypeName : Value → String
  | decimal _ => "decimal.Decimal"
  | moment m => if m.clock.isSome then "datetime.datetime" else "datetime.date"
  | record _ => "types.SimpleNamespace"
  | v => v.typeName

/-- The class of a value; a class stands for itself. -/
def classOf : Value → ClassRef
  | cls c => c
  | instanceOf c => c
  | v => .native v.typeName

/-- Whether a value can be called. -/
def isCallable : Value → Bool
  | rule _ | callable .. | bound .. | cls _ | attachment _ => true
  | _ => false

/-- The name a callable goes by, if it has one.  Fixing the parameters of a rule keeps its name. -/
def callableName? : Value → Option String
  | rule r => some r.functionName
  | callable _ n => n
  | bound r _ => some ((callableName? r).getD "configured_rule")
  | cls c => some c.name
  | _ => none

/-- Whether two callables are one and the same. -/
def isSameCallable : Value → Value → Bool
  | rule r, rule s => r == s
  | callable i _, callable j _ => i == j
  | cls c, cls d => c == d
  | _, _ => false

/-- Whether a value counts as true. -/
def truthy : Value → Bool
  | null => false
  | bool b => b
  | int n => n != 0
  | float x => !x.isZero
  | decimal d => !d.isZero
  | text s => !s.isEmpty
  | bytes bs => !bs.isEmpty
  | list xs => !xs.isEmpty
  | tuple xs => !xs.isEmpty
  | set xs => !xs.isEmpty
  | dict es => !es.isEmpty
  | _ => true

/-- Whether a value is a number; truth values count as one and zero. -/
def isNumeric : Value → Bool
  | bool _ | int _ | float _ | decimal _ => true
  | _ => false

/-- The exact number a value stands for. -/
def toExtended? : Value → Option Extended
  | bool b => some (.value (if b then 1 else 0))
  | int n => some (.value n)
  | float x => x.toExtended?
  | decimal d => d.toExtended?
  | _ => none

/-- Whether a value is a signalling not-a-number. -/
def isSignalling : Value → Bool
  | decimal d => d.isSignalling
  | _ => false

/-- The text of a text. -/
def text? : Value → Option String
  | text s => some s
  | _ => none

/-- The items of a list or a tuple. -/
def items? : Value → Option (List Value)
  | list xs => some xs
  | tuple xs => some xs
  | _ => none

/-- The entries of a mapping. -/
def entries? : Value → Option (List Entry)
  | dict es => some es
  | _ => none

/-- Whether a value is null. -/
def isNull : Value → Bool
  | null => true
  | _ => false

/-- Whether a value counts as empty: null, a blank text or a container without items. -/
def isEmpty : Value → Bool
  | null => true
  | text s => Text.isBlankText s
  | list xs => xs.isEmpty
  | tuple xs => xs.isEmpty
  | set xs => xs.isEmpty
  | dict es => es.isEmpty
  | _ => false

end Value
end Rulebook
