import MarkerLint.Audit.Report
import MarkerLint.Text.Ascending

/-!
# Results of an audit

Reports are grouped by their code. The groups are kept in ascending order of the code, and the
places of a group in ascending order without repetition; the text and the symbol of a group are
those of its last report.
-/

namespace MarkerLint.Audit

/-- The messages with one code. -/
structure Result where
  code : String
  message : String
  locations : List String := []
  symbol : String := ""
deriving DecidableEq, Repr

/-- The code of a result that stands for a failed run. -/
def failureCode : String := "AABHA_ERROR"

/-- The result that stands for a failed run. -/
def failure (cause : String) : Result :=
  { code := failureCode, message := cause }

/-- The group of a single report. -/
def Result.ofReport (r : Report) : Result :=
  { code := r.code, message := r.message, locations := [r.location], symbol := r.symbol }

/-- The group with one more report. -/
def Result.withReport (g : Result) (r : Report) : Result :=
  { g with
    message := r.message
    locations := Text.insertAscending r.location g.locations
    symbol := r.symbol }

/-- Adds a report to its group. -/
def addReport (groups : List Result) (r : Report) : List Result :=
  match groups with
  | [] => [.ofReport r]
  | g :: rest =>
      if r.code = g.code then g.withReport r :: rest
      else if r.code < g.code then .ofReport r :: g :: rest
      else g :: addReport rest r

/-- The groups of reports. -/
def group (reports : List Report) : List Result :=
  reports.foldl addReport []

/-- The results in the output of the host. -/
def resultsIn (output : String) : List Result :=
  group (reportsIn output)

/-- The places of a result in one text. -/
def Result.locationText (r : Result) : String :=
  if r.locations.isEmpty then "N/A" else String.intercalate ", " r.locations

/-- What an audit of a path found. -/
structure Outcome where
  results : List Result
  target : String
deriving DecidableEq, Repr

/-- Something was found, or the run failed. -/
def Outcome.hasViolations (o : Outcome) : Bool :=
  !o.results.isEmpty

/-- The run failed. -/
def Outcome.isError (o : Outcome) : Bool :=
  o.results.any fun r => r.code == failureCode

end MarkerLint.Audit
