import MarkerLint.Audit.Command
import MarkerLint.Audit.Result
import MarkerLint.Log
import MarkerLint.Text.Blank

/-!
# A run of the host linter

An audit first decides on a command; none is run if every rule is disabled. What became of the
command then decides the results. A run that reported nothing and whose exit status tells of a fatal
or a usage error counts as failed.
-/

namespace MarkerLint.Audit

/-- What became of a command. -/
inductive ProcessOutcome where
  /-- It ended with an exit status and these outputs. -/
  | ended (status : Int) (output errors : String)
  /-- It could not be run. -/
  | failed (cause : String)
deriving DecidableEq, Repr

/-- What an audit is about to do. -/
structure Plan where
  target : String
  /-- All disabled rules in ascending order. -/
  disabled : List String
  /-- The command, unless every rule is disabled. -/
  command? : Option (List String)

/-- The plan for the audit of a path. -/
def plan (c : Configuration) (interpreter target : String) (disabled : List String) :
    Except Fault Plan := do
  let configured ← c.disabledRules
  let all := Text.ascending (disabled ++ configured)
  let enabled ← enabledCheckers c all
  let command ← command c interpreter target all
  .ok ⟨target, all, if enabled.isEmpty then none else some command⟩

/-- The log entries of a plan. -/
def Plan.log (p : Plan) : List LogEntry :=
  let disabled := if p.disabled.isEmpty then "none" else String.intercalate ", " p.disabled
  let opening : LogEntry :=
    ⟨.info, .audit, .ok ("Auditing " ++ p.target ++ " (disabled: " ++ disabled ++ ")")⟩
  [opening,
   match p.command? with
   | some command => ⟨.debug, .linterCommand, .ok ("Running: " ++ String.intercalate " " command)⟩
   | none => ⟨.warning, .linterCommand, .ok "Every Aabha rule is disabled; nothing to check."⟩]

/-- The exit status tells of a fatal error or of a usage error: bit 0 or bit 5 is set. -/
def isFatal (status : Int) : Bool :=
  status % 2 != 0 || status / 32 % 2 != 0

/-- The last line of the errors, or of the output if there are none. -/
def failureDetail (output errors : String) : String :=
  let text := if errors.isEmpty then output else errors
  match (Text.lines (Text.trimOf Text.isBlank text.toList)).getLast? with
  | some line => String.ofList line
  | none => "pylint failed"

/-- The results of a command. -/
def ProcessOutcome.results : ProcessOutcome → List Result
  | .failed cause => [failure cause]
  | .ended status output errors =>
      let results := resultsIn output
      if results.isEmpty && isFatal status then [failure (failureDetail output errors)] else results

/-- The results of a plan, given what became of its command. -/
def Plan.outcome (p : Plan) (process : ProcessOutcome) : Outcome :=
  match p.command? with
  | none => ⟨[], p.target⟩
  | some _ => ⟨process.results, p.target⟩

/-- The raw outputs that a plan leaves behind. -/
def Plan.outputs? (p : Plan) (process : ProcessOutcome) : Option (String × String) :=
  match p.command?, process with
  | some _, .ended _ output errors => some (output, errors)
  | _, _ => none

end MarkerLint.Audit
