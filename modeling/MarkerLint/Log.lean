import MarkerLint.Fault

/-!
# The log

What the parts of the program note beside their answers. An entry has a level, the part that wrote
it, and a text. The text is formed when the entry is shown, and an entry whose text cannot be formed
is noted all the same. Functions of this library return their entries; nothing is written anywhere.
-/

namespace MarkerLint

/-- How important a log entry is, from the least. -/
inductive LogLevel where
  | debug
  | info
  | warning
deriving DecidableEq, Repr

/-- The name of a level. -/
def LogLevel.name : LogLevel → String
  | .debug => "DEBUG"
  | .info => "INFO"
  | .warning => "WARNING"

/-- The parts of the program that write log entries. -/
inductive LogSource where
  | extraction
  | inspection
  | checker
  | configuration
  | configurationFile
  | audit
  | linterCommand
deriving DecidableEq, Repr

/-- The name of a source in the log. -/
def LogSource.name : LogSource → String
  | .extraction => "aabha_linter.infrastructure.gateways.astroid_gateway"
  | .inspection => "aabha_linter.use_cases.inspect_markers"
  | .checker => "aabha_linter.use_cases.checks.base"
  | .configuration => "aabha_linter.domain.config"
  | .configurationFile => "aabha_linter.infrastructure.config_file_loader"
  | .audit => "aabha_linter.use_cases.check_audit"
  | .linterCommand => "aabha_linter.infrastructure.adapters.pylint_adapter"

/-- An entry of the log, with its text or the reason why there is none. -/
structure LogEntry where
  level : LogLevel
  source : LogSource
  text : Except Fault String

/-- An entry as a line of the log. Without a text there is no line: the log complains of the entry
instead, and that complaint is left out. -/
def LogEntry.line? (e : LogEntry) : Option String :=
  e.text.toOption.map fun text => e.level.name ++ " " ++ e.source.name ++ ": " ++ text

/-- An answer with the entries written on the way to it. -/
structure Logged (α : Type) where
  value : α
  log : List LogEntry

end MarkerLint
