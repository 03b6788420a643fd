import Rulebook.CommandLine.Command
import Rulebook.Settings

/-!
# Running commands

`Invocation.run` runs a command in some surroundings.  The answer is a `Transcript`: what is written,
what is reported as an error, and how it ends.  Validation that finds a fault ends with 1; a document
that cannot be used, and misuse, end with 2.
-/

set_option autoImplicit false

namespace Rulebook

/-- How a command ends: with a code, because it is used wrongly, with help instead of a run, or with a
failure that nothing stopped. -/
inductive CommandEnd where
  | code (n : Nat)
  | misused
  | helped
  | failed (f : Failure)

/-- What a command leaves: the lines it writes, the lines it reports, and its end. -/
structure Transcript where
  out : List String
  err : List String
  ending : CommandEnd

namespace CommandEnd

/-- The code with which a program ends. -/
def exitCode : CommandEnd → Nat
  | code n => n
  | misused => 2
  | helped => 0
  | failed _ => 1

end CommandEnd

/-! ## Written lines -/

namespace Text

/-- The characters after a sequence that controls a terminal, if characters begin with one. -/
def afterControl? : List Char → Option (List Char)
  | '\x1b' :: '[' :: r =>
    match r.dropWhile fun c ↦ c.isDigit || c == ';' || c == '?' with
    | c :: rest => if c.isAlpha then some rest else none
    | [] => none
  | _ => none

/-- Characters without the sequences that control a terminal.  The first `skip` ones belong to such a
sequence. -/
def withoutControls : (skip : Nat) → List Char → List Char
  | _, [] => []
  | skip + 1, _ :: r => withoutControls skip r
  | 0, c :: r =>
    match afterControl? (c :: r) with
    | some rest => withoutControls (r.length - rest.length) r
    | none => c :: withoutControls 0 r

/-- A line without sequences that control a terminal. -/
def plainLine (s : String) : String := String.ofList (withoutControls 0 s.toList)

end Text

namespace Transcript

/-- A run that writes lines. -/
def wrote (w : Surroundings) (lines : List String) (code : Nat) : Transcript :=
  ⟨lines.map w.written, [], .code code⟩

/-- A run that reports that a document cannot be used. -/
def refused (w : Surroundings) (message : String) : Transcript :=
  ⟨[], [w.written ("Error: " ++ message)], .code 2⟩

/-- A run that ends with a failure. -/
def failed (f : Failure) : Transcript := ⟨[], [], .failed f⟩

/-- A run whose log is wanted too. -/
def withLog (verbose : Bool) (events : List Event) (t : Transcript) : Transcript :=
  let lines := events.filterMap fun e ↦
    match e with
    | .logged l => some l.text
    | _ => none
  { t with err := (if verbose then lines else []) ++ t.err }

/-- A run that may end with a failure on the way. -/
def ofExcept : Except Failure Transcript → Transcript
  | .ok t => t
  | .error f => failed f

end Transcript

/-- A caller without rules and message builders of its own. -/
def Host.none : Host where
  call := fun _ _ ↦ ⟨Option.none, .ok .null⟩
  build := fun _ _ _ _ ↦ .ok .null
  isBuilder := fun _ ↦ false

namespace Command

/-- The settings of a command: those of the environment, with another locale if one is said. -/
def settings (w : Surroundings) (loc : Option String) : Settings :=
  let s := Settings.ofEnvironment w.environment
  { s with current := (Settings.said loc).getD s.current }

/-- The validator of a command. -/
def validator [Platform] (w : Surroundings) (loc : Option String) (store : Store)
    (hierarchy : Hierarchy) :
    Except Failure Validator :=
  (settings w loc).validator w store hierarchy

/-! ## Rules -/

/-- Lists the rules. -/
def runList [Platform] (w : Surroundings) : Except Failure Transcript := do
  let names := (← validator w none [] []).registry.names
  return .wrote w (names.map ("  " ++ ·) ++
    ["", toString names.length ++ " rule(s) registered"]) 0

/-- The line about a specification that resolves. -/
def parsedLine? [Platform] : RuleEntry → Except Failure (Option String)
  | .named d => do
    let params ← d.params.mapM Value.literal
    return some ("  " ++ d.rawName ++ " -> " ++ d.name ++ "(" ++ joinWith ", " params ++ ")")
  | .bare _ => .ok none

/-- Shows how specifications are read. -/
def runParse [Platform] (w : Surroundings) (verbose : Bool) (specs : List String) :
    Except Failure Transcript := do
  let v ← validator w none [] []
  let (parsed, lines) := Spec.resolveAll v.registry (.list (specs.map .text))
  let known ← parsed.rules.mapM parsedLine?
  let unknown ← parsed.invalid.mapM fun s ↦ do
    return "  " ++ (← s.display) ++ " -> not registered"
  return (Transcript.wrote w (known.filterMap id ++ unknown)
    (if unknown.isEmpty then 0 else 1)).withLog verbose (Request.logged lines)

/-! ## One value -/

/-- The value that a word on the command line stands for: that of the document it is, or the word
itself. -/
def wordValue (reader : DocumentReader) (word : String) (raw : Bool) : Except Failure Value :=
  if raw then .ok (.text word)
  else
    match reader.ofText word with
    | .ok v => .ok v
    | .error .malformed => .ok (.text word)
    | .error (.failed f) => .error f

/-- Validates one value. -/
def runValidate [Platform] (w : Surroundings) (verbose : Bool) (word : String) (rules : List String)
    (field loc : Option String) (raw : Bool) : Except Failure Transcript := do
  let v ← validator w loc [] []
  let value ← wordValue w.reader word raw
  let request : Request :=
    { value, rules := .list (rules.map .text), fieldName := RuleError.textOrNull field
      context := .null, extra := [] }
  let task := request.run Host.none v.registry v.translator
  let transcript := match task.result with
    | none => Transcript.wrote w ["✓ Valid"] 0
    | some (.refused e) => Transcript.wrote w [e.message] 1
    | some (.failed f) => Transcript.failed f
  return transcript.withLog verbose task.events

/-! ## One record -/

/-- The keys of a schema document that say something about the schema itself. -/
def ownKeys : List String := ["name", "labels"]

/-- Whether a key is among those that say something about the schema itself. -/
def isOwnKey (key : Value) : Bool := ownKeys.any fun k ↦ Value.sameKey (.text k) key

/-- Whether a value is a list. -/
def isList : Value → Bool
  | .list _ => true
  | _ => false

/-- The rules in a schema document: those under `rules`, or the document itself, where a key that says
something about the schema counts only with a list. -/
def rulesOf (schema : List Entry) : List Entry :=
  match Value.lookup (.text "rules") schema with
  | some (.dict es) => es
  | _ => schema.filter fun e ↦ !isOwnKey e.1 || isList e.2

/-- The name of the records that a schema document is about. -/
def nameOf (schema : List Entry) : String :=
  match Value.lookup (.text "name") schema with
  | some (.text s) => if Text.isBlankText s then "Record" else s
  | _ => "Record"

/-- Lays the display names of a schema document over the catalog of a locale. -/
def withLabels (schema : List Entry) (name loc : String) (t : Translator) : Translator :=
  match Value.lookup (.text "labels") schema with
  | some (.dict es) => t.register loc [(.text name, .dict es)]
  | _ => t

variable [Platform]

/-- The transcript of a report on the record in a file. -/
def reported (w : Surroundings) (dataPath : String) (r : Report) : Except Failure Transcript := do
  if r.success then return .wrote w ["✓ " ++ Path.fileName dataPath ++ " is valid"] 0
  else
    let lines ← r.messages.mapM fun m ↦ do return "  ✗ " ++ (← m.display)
    return .wrote w (r.message :: lines) 1

/-- Validates a record against a schema document. -/
def checkRecord (w : Surroundings) (verbose : Bool) (schema : List Entry) (data : Value)
    (dataPath : String) (loc : Option String) : Except Failure Transcript := do
  let v ← validator w loc [] []
  let name := nameOf schema
  let (target, hierarchy) ← Hierarchy.declare [] name [] none
  let store ← Schema.attachAll hierarchy target (rulesOf schema) []
  let translator := withLabels schema name (settings w loc).current v.translator
  let v := { v with translator, store, hierarchy }
  let (events, outcome) := Record.validate v Host.none target (if data.truthy then data else .dict [])
    .null
  let transcript := match outcome with
    | .error f => Transcript.failed f
    | .ok r => Transcript.ofExcept (reported w dataPath r)
  return transcript.withLog verbose events

/-- Validates the record in a file against the schema in another one. -/
def runCheck (w : Surroundings) (verbose : Bool) (schemaPath dataPath : String)
    (loc : Option String) : Transcript :=
  match w.find schemaPath, w.find dataPath with
  | .file schemaBytes, .file dataBytes =>
    match w.reader.ofBytes schemaBytes with
    | .error (.failed f) => .failed f
    | .error .malformed => .refused w ("cannot parse schema " ++ Path.plain schemaPath)
    | .ok schema =>
      match w.reader.ofBytes dataBytes with
      | .error (.failed f) => .failed f
      | .error .malformed => .refused w ("cannot parse data " ++ Path.plain dataPath)
      | .ok data =>
        let es := Catalog.entriesOf (some schema)
        if (rulesOf es).isEmpty then
          .refused w ("schema " ++ Path.plain schemaPath ++ " must map properties to rule lists")
        else if !data.isNull && data.entries?.isNone then
          .refused w ("data " ++ Path.plain dataPath ++ " must be a mapping")
        else .ofExcept (checkRecord w verbose es data dataPath loc)
  | _, _ => ⟨[], [], .misused⟩

end Command

variable [Platform]

namespace Invocation

/-- Runs a command. -/
def run (i : Invocation) (w : Surroundings) : Transcript :=
  match i.command with
  | .listRules => .ofExcept (Command.runList w)
  | .parseRules specs => .ofExcept (Command.runParse w i.verbose specs)
  | .validate value rules field loc raw =>
    .ofExcept (Command.runValidate w i.verbose value rules field loc raw)
  | .check schemaPath dataPath loc => Command.runCheck w i.verbose schemaPath dataPath loc

end Invocation

/-- Reads and runs a command line. -/
def runCommandLine (words : List String) (w : Surroundings) : Transcript :=
  match Invocation.read words with
  | .ok i => i.run w
  | .error .help => ⟨[], [], .helped⟩
  | .error .misuse => ⟨[], [], .misused⟩

end Rulebook
