import MarkerLint.Text.Case

/-!
# The raw log

The outputs of every run are appended to a file of their own for each tool, under a header with the
time of the run. An empty output is left out.
-/

namespace MarkerLint.Audit

/-- Where raw logs are kept. -/
def rawLogDirectory : String := ".aabha/logs"

/-- The name of the raw log of a tool. -/
def rawLogName (tool : String) : String :=
  "raw_" ++ tool ++ ".log"

/-- A rule across the page. -/
def pageRule : String :=
  String.ofList (List.replicate 60 '=')

/-- An output under its label; nothing if it is empty. -/
def rawSection (label output : String) : String :=
  if output.isEmpty then ""
  else
    let ending := if output.toList.getLast? = some '\n' then "" else "\n"
    "--- " ++ label ++ " ---\n" ++ output ++ ending

/-- What a run adds to the raw log of a tool. -/
def rawLogEntry (time tool output errors : String) : String :=
  "\n" ++ pageRule ++ "\n[" ++ time ++ "] " ++ Text.upperText tool ++ " raw output\n" ++ pageRule
    ++ "\n" ++ rawSection "stdout" output ++ rawSection "stderr" errors

end MarkerLint.Audit
