import Rulebook.CommandLine.Arguments

/-!
# Commands

`Invocation.read` reads a command line.  There are four commands:

* `rules list` lists the rules,
* `rules parse SPECS…` shows how specifications are read,
* `validate VALUE` validates one value,
* `check SCHEMA DATA` validates the record in a file against the schema in another one.
-/

set_option autoImplicit false

namespace Rulebook

/-- What is to be done. -/
inductive Command where
  | listRules
  | parseRules (specs : List String)
  | validate (value : String) (rules : List String) (field loc : Option String) (raw : Bool)
  | check (schemaPath dataPath : String) (loc : Option String)

/-- A command, and whether the log is wanted too. -/
structure Invocation where
  verbose : Bool
  command : Command

/-- Why a command line names no command: help is asked for, or it makes no sense. -/
inductive NoCommand where
  | help
  | misuse

namespace Command

/-- The option that asks for help. -/
def help : OptionForm := ⟨"help", none, false⟩

/-- The option for the locale of messages. -/
def inLocale : OptionForm := ⟨"locale", none, true⟩

/-- Reads the words of a command. -/
def arguments (forms : List OptionForm) (mixed : Bool) (words : List String) :
    Except NoCommand Arguments :=
  match Arguments.read (help :: forms) mixed words with
  | none => .error .misuse
  | some a => if a.has "help" then .error .help else .ok a

/-- Reads a command of the rules. -/
def readRules (words : List String) : Except NoCommand Command := do
  match (← arguments [] false words).operands with
  | "list" :: r =>
    match (← arguments [] true r).operands with
    | [] => return .listRules
    | _ => throw .misuse
  | "parse" :: r =>
    match (← arguments [] true r).operands with
    | [] => throw .misuse
    | specs => return .parseRules specs
  | _ => throw .misuse

/-- Reads the command that validates a value. -/
def readValidate (words : List String) : Except NoCommand Command := do
  let a ← arguments
    [⟨"rule", some 'r', true⟩, ⟨"field", none, true⟩, inLocale, ⟨"raw", none, false⟩] true words
  match a.operands with
  | [value] =>
    return .validate value (a.values "rule") (a.value? "field") (a.value? "locale") (a.has "raw")
  | _ => throw .misuse

/-- Reads the command that validates a record. -/
def readCheck (words : List String) : Except NoCommand Command := do
  let a ← arguments [inLocale] true words
  match a.operands with
  | [schemaPath, dataPath] => return .check schemaPath dataPath (a.value? "locale")
  | _ => throw .misuse

/-- Reads a command. -/
def read : List String → Except NoCommand Command
  | "rules" :: r => readRules r
  | "validate" :: r => readValidate r
  | "check" :: r => readCheck r
  | _ => .error .misuse

/-- The paths of the files that a command reads. -/
def paths : Command → List String
  | check schemaPath dataPath _ => [schemaPath, dataPath]
  | _ => []

end Command

namespace Invocation

/-- Reads a command line. -/
def read (words : List String) : Except NoCommand Invocation := do
  let a ← Command.arguments [⟨"verbose", some 'v', false⟩] false words
  return ⟨a.has "verbose", ← Command.read a.operands⟩

end Invocation
end Rulebook
