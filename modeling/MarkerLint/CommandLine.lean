import MarkerLint.Audit.Run
import MarkerLint.Audit.Terminal
import MarkerLint.CommandLine.Invocation
import MarkerLint.Configuration.File
import MarkerLint.Json
import MarkerLint.Source.Reader

/-!
# The command line

What the program prints and which status it ends with, for its arguments, the files it finds and
what the host linter answers. Warnings about the configuration come first and stand alone; later log
entries name their source, and only warnings are shown unless all are asked for.
-/

namespace MarkerLint.CommandLine

/-- What the program finds when it is started: files, the directory it stands in, the interpreter of
the host linter, and what becomes of a command. -/
structure Surroundings where
  files : FileTree
  directory : List String
  interpreter : String
  outcomeOf : List String → Audit.ProcessOutcome

/-- What the program leaves behind: its exit status, what it printed, the commands it ran, and their
raw outputs. -/
structure Exit where
  status : Nat
  output : String
  errors : String
  commands : List (List String)
  rawOutputs : Option (String × String)

/-- How a run of the program ends: with an exit, or because the command line asks for nothing. -/
inductive Ending where
  | exit (e : Exit)
  | misuse

/-- The status after a run without findings. -/
def successStatus : Nat := 0

/-- The status after findings. -/
def findingsStatus : Nat := 1

/-- The status after a failure or a misuse. -/
def failureStatus : Nat := 2

/-- An exit with something printed as an error alone. -/
def refusal (text : String) : Exit :=
  ⟨failureStatus, "", Audit.linesText [text], [], none⟩

/-- An exit with something printed alone. -/
def printed (output : String) : Exit :=
  ⟨successStatus, output, "", [], none⟩

/-- The log as it is shown. -/
def shownLog (verbose : Bool) (log : List LogEntry) : String :=
  let shown := log.filter fun e => verbose || e.level == .warning
  String.join ((shown.filterMap LogEntry.line?).map (· ++ "\n"))

/-- The log as it is shown before it is known how much of it to show. -/
def earlyLog (log : List LogEntry) : String :=
  let shown := log.filter fun e => e.level == .warning
  String.join ((shown.filterMap fun e => e.text.toOption).map (· ++ "\n"))

/-- The path that is audited: the given one, or else the directory of sources if there is one. -/
def auditTarget (s : Surroundings) (path : Option String) : String :=
  let given := (path.map fun p => (GivenPath.ofText p).text).getD "."
  if given != "." then given
  else if s.files.isDirectory (s.directory ++ ["src"]) then "src" else "."

/-- The status after an audit. -/
def auditStatus (o : Audit.Outcome) : Nat :=
  if o.isError then failureStatus else if o.hasViolations then findingsStatus else successStatus

/-- Audits a path. -/
def check (s : Surroundings) (c : Configuration) (path : Option String) (disabled : List String) :
    Except Fault (Logged Exit) := do
  let unknown := Text.ascending (disabled.filter fun id => !Rule.ids.contains id)
  if !unknown.isEmpty then
    .ok ⟨refusal ("Unknown rule id(s): " ++ String.intercalate ", " unknown), []⟩
  else
    let plan ← Audit.plan c s.interpreter (auditTarget s path) disabled
    let process := s.outcomeOf (plan.command?.getD [])
    let outcome := plan.outcome process
    let report ← outcome.report .packaged
    .ok ⟨⟨auditStatus outcome, report.output, report.errors, plan.command?.toList,
      plan.outputs? process⟩, plan.log⟩

/-- The codes of a rule's messages with their symbols, by code. -/
def messageLines (definitions : Table MessageDefinition) : List String :=
  if definitions.isEmpty then ["  (no messages)"]
  else
    let sorted := definitions.mergeSort fun a b => decide (a.1 ≤ b.1)
    sorted.map fun e => "  " ++ e.1 ++ " " ++ e.2.symbol

/-- The lines about a rule. -/
def ruleLines (c : Configuration) (rule : Rule) : Except Fault (List String) := do
  let enabled ← c.isEnabled rule.id
  let definitions ← Registry.packaged.definitions rule.id
  let state := if enabled then "enabled" else "disabled"
  .ok ([rule.id ++ " [" ++ rule.type.name ++ "] (" ++ state ++ ")", "  " ++ rule.description]
    ++ messageLines definitions)

/-- The lines about rules, in order. -/
def rulesLines (c : Configuration) : List Rule → Except Fault (List String)
  | [] => .ok []
  | rule :: rest => do
      let here ← ruleLines c rule
      let others ← rulesLines c rest
      .ok (here ++ others)

/-- Lists the rules. -/
def rules (c : Configuration) : Except Fault (Logged Exit) := do
  let lines ← rulesLines c Rule.catalog
  .ok ⟨printed (Audit.linesText lines), []⟩

/-- Prints the markers in a file with the diagnostics on them. -/
def markers (s : Surroundings) (file : String) : Except Fault (Logged Exit) :=
  let path := (GivenPath.ofText file).text
  let read := Source.readModule s.files s.directory path
  match read.value with
  | none => .ok ⟨refusal ("Could not parse " ++ path), read.log⟩
  | some m => do
      let classes ← Inspection.inspect .packaged Rule.catalog m
      let text ← (Json.ofInspection classes).render
      let log := Inspection.log .packaged Rule.catalog m
      .ok ⟨printed (Audit.linesText [text]), read.log ++ log⟩

/-- Carries out a command; nothing if it names a file that is not there. -/
def execute (s : Surroundings) (c : Configuration) : Command → Except Fault (Option (Logged Exit))
  | .check path disabled => some <$> check s c path disabled
  | .rules => some <$> rules c
  | .markers file =>
      if s.files.isFileAt s.directory file then some <$> markers s file else .ok none

/-- Runs the program with its arguments. The configuration is read before they are looked at. -/
def run (s : Surroundings) (arguments : List String) : Except Fault Ending := do
  let loaded := Configuration.ofProject s.files s.directory
  let c ← loaded.value
  match Invocation.ofArguments? arguments with
  | none => .ok .misuse
  | some i =>
      match ← execute s c i.command with
      | none => .ok .misuse
      | some done =>
          let errors := earlyLog loaded.log ++ shownLog i.verbose done.log ++ done.value.errors
          .ok (.exit { done.value with errors })

end MarkerLint.CommandLine
