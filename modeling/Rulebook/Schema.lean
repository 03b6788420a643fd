import Rulebook.Options
import Rulebook.Schema.Store
import Rulebook.StandardRule

/-!
# Schemas of classes

The schema of a class says which rules each property of a record has to pass.  It is built from
attachments: each attaches specifications of rules to one property of one class.  Attachments of one
property accumulate, and a class starts from the lists of its ancestors.
-/

set_option autoImplicit false

namespace Rulebook

/-! ## Attachments -/

namespace Attachment

/-- The specifications in some arguments; a list among them stands for its items. -/
def ofSpecs (specs : List Value) : List Value :=
  specs.flatMap fun s ↦ (s.items?).getD [s]

/-- The parameters that a value stands for: none, those of a list, or itself. -/
def paramsOf : Value → List Value
  | .null => []
  | .list xs | .tuple xs => xs
  | v => [v]

/-- A rule with fixed parameters, as an attachment. -/
def ofRule (rule params : Value) : List Value := [.bound rule (paramsOf params)]

/-- The attachments that need no parameters. -/
def readyMade : List (String × StandardRule) :=
  [("IsRequired", .required), ("IsNullable", .nullable), ("IsNumber", .number),
    ("IsInteger", .integer), ("IsString", .string), ("IsNonNullString", .nonNullString),
    ("IsEmail", .email), ("IsUrl", .url), ("IsFileName", .fileName)]

/-- The rules for which there is an attachment with parameters. -/
def factories : List (String × StandardRule) :=
  [("HasLength", .length), ("HasMinLength", .minLength), ("HasMaxLength", .maxLength),
    ("IsNumberLessThan", .numberLessThan),
    ("IsNumberLessThanOrEquals", .numberLessThanOrEquals),
    ("IsNumberGreaterThan", .numberGreaterThan),
    ("IsNumberGreaterThanOrEquals", .numberGreaterThanOrEquals),
    ("IsNumberEquals", .numberEquals), ("IsNumberIsDifferentFrom", .numberIsDifferentFrom),
    ("IsNumberBetween", .numberBetween), ("StartsWithOneOf", .startsWithOneOf),
    ("EndsWithOneOf", .endsWithOneOf)]

/-- The specifications of a ready-made attachment. -/
def ready? (name : String) : Option (List Value) :=
  (readyMade.lookup name).map fun r ↦ [.text r.name]

/-- The specifications of an attachment with parameters. -/
def factory? (name : String) (params : Value) : Option (List Value) :=
  (factories.lookup name).map fun r ↦ ofRule (.rule r) params

/-- The specifications that an entry for a property stands for. -/
def ofEntry : Value → List Value
  | .attachment specs => specs
  | v => ofSpecs [v]

/-- The entries that a value for a property stands for. -/
def entriesOf (v : Value) : List Value := (v.items?).getD [v]

end Attachment

/-! ## The schema of a class -/

namespace Schema

/-- The key under which the lists of rules are stored. -/
def rulesKey : String := "ruleforge:target-rules"

/-- The key under which options are stored. -/
def optionsKey : String := "ruleforge:target-options"

/-- The lists of rules of a class. -/
def ofClass (s : Store) (h : Hierarchy) (c : ClassRef) : Except Failure Properties :=
  s.merged rulesKey (h.ancestors c)

/-- The options of a class: those of the nearest ancestor that has some. -/
def options (s : Store) (h : Hierarchy) (c : ClassRef) : Except Failure Options :=
  match s.inherited? optionsKey (h.ancestors c) with
  | none => .ok .none
  | some v => Options.ofStored v

/-- Attaches specifications to a property of a class. -/
def attach (s : Store) (h : Hierarchy) (c : ClassRef) (property : Value) (specs : List Value) :
    Except Failure Store := do
  let (_, s) ← s.update rulesKey (h.ancestors c) c property (· ++ specs)
  return s

/-- Attaches the specifications of several entries to a property of a class. -/
def attachEntries (h : Hierarchy) (c : ClassRef) (property : Value) :
    List Value → Store → Except Failure Store
  | [], s => .ok s
  | e :: r, s => do attachEntries h c property r (← attach s h c property (Attachment.ofEntry e))

/-- The entries for several properties, of which some are given in a mapping and some by keyword: those
of the mapping come first, and one that is given both ways has the entries of the keyword. -/
def combine (properties keywords : List Entry) : List Entry :=
  keywords.foldl (fun acc e ↦ Value.insert e.1 e.2 acc) (Value.ofEntries properties)

/-- Attaches entries to several properties of a class. -/
def attachAll (h : Hierarchy) (c : ClassRef) : List Entry → Store → Except Failure Store
  | [], s => .ok s
  | (p, v) :: r, s => do
    attachAll h c r (← attachEntries h c p (Attachment.entriesOf v) s)

/-- Attaches options to a class. -/
def setOptions (s : Store) (c : ClassRef) (o : Options) : Store := s.set optionsKey c o.toValue

end Schema

namespace Options

/-- The options for a record of a class: those of the class, with those of the call over them. -/
def forClass [Platform] (s : Store) (h : Hierarchy) (c : ClassRef) (given : Value) :
    Except Failure Options := do
  let own ← Schema.options s h c
  return own.merge (← coerce given)

end Options
end Rulebook
