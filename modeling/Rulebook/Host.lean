import Rulebook.Log
import Rulebook.Rule.Standard
import Rulebook.Task

/-!
# The caller's side

Rules and message builders may be supplied by the caller.  In values they occur by identity only; a
`Host` says what they do.  A rule of the caller may pause; a builder does not.  The objects that are
validated may be the caller's as well, and then reading them is up to the caller's classes.

`Host.runRule` runs whatever a rule list may hold: a standard rule, a rule of the caller, one of them
with fixed parameters, or something that can be called but is no rule, which fails.
-/

set_option autoImplicit false

namespace Rulebook

/-- Something that is worth noting while values are validated. -/
inductive Event where
  /-- A rule of the caller is called. -/
  | called (id : String) (ctx : RuleContext)
  /-- A rule of the caller goes on after its last pause. -/
  | resumed (id : String)
  /-- A message builder of the caller is called. -/
  | built (id : String) (translatedName : Value) (message : String) (details : List Entry)
  | logged (line : LogLine)

/-- What calling something comes to: a value, or a failure that is thrown. -/
abbrev Outcome := Except Failure Value

/-- What a rule of the caller does when it is called: how often it pauses (not at all when it is no
asynchronous rule), and what it comes to. -/
structure Reply where
  pauses : Option Nat
  outcome : Outcome

/-- What the caller's rules, message builders and classes do. -/
structure Host where
  call : (id : String) → RuleContext → Reply
  build : (id : String) → (translatedName : Value) → (message : String) → (details : List Entry) →
    Outcome
  /-- Whether a callable is a message builder, which is no rule. -/
  isBuilder : (id : String) → Bool
  /-- What reading an attribute comes to that is no field of the object. -/
  attributeOf : (object : Value) → (name : String) → Outcome := fun object name ↦
    .error (.noAttribute object.typeName name)
  /-- What looking a key up comes to, if the class of the object is a mapping of its own. -/
  entryOf? : (object key : Value) → Option Outcome := fun _ _ ↦ none

namespace Reply

/-- A reply as a task. -/
def task (id : String) (r : Reply) : Task Event Outcome :=
  match r.pauses with
  | none => .done [] r.outcome
  | some n => (Task.yields n).bind fun _ ↦ .done [.resumed id] r.outcome

end Reply

namespace Host

/-- Runs a rule. -/
def runRule [Platform] (host : Host) : Value → RuleContext → Task Event Outcome
  | .rule r, ctx => .done [] ((r.judge ctx).map Verdict.toValue)
  | .callable id _, ctx =>
    if host.isBuilder id then .done [] (.error (.builderCall id))
    else ((host.call id ctx).task id).after [.called id ctx]
  | .bound rule params, ctx => host.runRule rule { ctx with params }
  | .cls c, _ => .done [] (.error (.unexpectedArguments c.name))
  | .attachment _, _ => .done [] (.error .attachmentCall)
  | v, _ => .done [] (.error (.notCallable v.typeName))

/-- Runs a message builder. -/
def runBuilder (host : Host) (builder translatedName : Value) (message : String)
    (details : List Entry) : List Event × Outcome :=
  match builder with
  | .callable id _ =>
    ([.built id translatedName message details], host.build id translatedName message details)
  | v => ([], .error (.notCallable v.typeName))

end Host
end Rulebook
