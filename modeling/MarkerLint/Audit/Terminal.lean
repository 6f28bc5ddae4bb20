import MarkerLint.Audit.Result
import MarkerLint.Registry.Guidance
import MarkerLint.Text.Escapes

/-!
# The report of an audit on a terminal

One block for each result, the most frequent first: its code and symbol, its text, its places and
what to do about it. A last line counts the findings. A failed run is reported as an error instead.
-/

namespace MarkerLint.Audit

/-- What is printed, and what is printed as an error. -/
structure Printed where
  output : String
  errors : String
deriving DecidableEq, Repr

/-- The first result comes before the second: it has more places, or as many and no greater code. -/
def precedes (a b : Result) : Bool :=
  decide (b.locations.length < a.locations.length)
    || (a.locations.length == b.locations.length && decide (a.code ≤ b.code))

/-- The title of a result. -/
def Result.title (r : Result) : String :=
  if r.symbol.isEmpty then r.code else r.code ++ " (" ++ r.symbol ++ ")"

/-- The name under which instructions for a result are looked up. -/
def Result.guidanceName (r : Result) : String :=
  if r.symbol.isEmpty then r.code else r.symbol

/-- The lines about a result. -/
def resultLines (g : Guidance) (r : Result) : Except Fault (List String) := do
  let instructions ← g.instructions r.guidanceName
  .ok
    (["", r.title ++ " x" ++ toString r.locations.length, "  " ++ r.message]
      ++ r.locations.map ("    " ++ ·)
      ++ ["  Fix: " ++ instructions])

/-- The lines about results, in order. -/
def resultsLines (g : Guidance) : List Result → Except Fault (List String)
  | [] => .ok []
  | r :: rest => do
      let here ← resultLines g r
      let others ← resultsLines g rest
      .ok (here ++ others)

/-- The number of places of all results. -/
def total (results : List Result) : Nat :=
  results.foldl (fun n r => n + r.locations.length) 0

/-- Lines as they are printed where there is no terminal: without colours and styles. -/
def linesText (lines : List String) : String :=
  String.join (lines.map fun line => Text.dropEscapes line ++ "\n")

/-- What is printed about the outcome of an audit. -/
def Outcome.report (g : Guidance) (o : Outcome) : Except Fault Printed :=
  if o.isError then
    .ok ⟨"", linesText (o.results.map fun r => "Audit failed: " ++ r.message)⟩
  else if !o.hasViolations then
    .ok ⟨linesText ["No Aabha model inconsistencies in " ++ o.target ++ "."], ""⟩
  else do
    let blocks ← resultsLines g (o.results.mergeSort precedes)
    let closing := toString (total o.results) ++ " Aabha model inconsistencies across "
      ++ toString o.results.length ++ " message ids."
    .ok ⟨linesText (blocks ++ [closing]), ""⟩

end MarkerLint.Audit
