import Rulebook.Value.Display

/-!
# Log lines

Some operations leave a line in a log: its level, the part of the library it comes from, and a
message.  A message that cannot be put together leaves no line.
-/

set_option autoImplicit false

namespace Rulebook

/-- How important a log line is. -/
inductive LogLevel where
  | debug
  | info
deriving DecidableEq

/-- The parts of the library that write to the log. -/
inductive LogSource where
  | parsing
  | registry
  | pipeline
  | record
deriving DecidableEq

/-- A line of a log. -/
structure LogLine where
  level : LogLevel
  source : LogSource
  message : String

/-- The name of a level. -/
def LogLevel.name : LogLevel → String
  | debug => "DEBUG"
  | info => "INFO"

/-- The name of a part of the library. -/
def LogSource.name : LogSource → String
  | parsing => "ruleforge.validation.parser"
  | registry => "ruleforge.validation.registry"
  | pipeline => "ruleforge.validation.pipeline"
  | record => "ruleforge.validation.target"

namespace LogLine

/-- A log line as it is written. -/
def text (l : LogLine) : String := l.level.name ++ " " ++ l.source.name ++ ": " ++ l.message

/-- The line of a message; none when the message cannot be put together. -/
def ofMessage (level : LogLevel) (source : LogSource) (message : Except Failure String) :
    List LogLine :=
  match message with
  | .ok m => [⟨level, source, m⟩]
  | .error _ => []

end LogLine
end Rulebook
