import MarkerLint.CommandLine

/-!
# The program

Reads the files that a run may ask for, carries out the command line and prints what it says. The
host linter is not started from here: an audit reads its output from the standard input.
-/

namespace MarkerLint.CommandLine

/-- The beginnings of a path, from the empty one to the whole path. -/
def beginnings (path : List String) : List (List String) :=
  (List.range (path.length + 1)).map path.take

/-- The paths that a run in a directory may ask for. -/
def pathsToRead (here : List String) (arguments : List String) : List (List String) :=
  let everything : FileTree := ⟨"", []⟩
  let given := arguments.flatMap fun argument =>
    let path := GivenPath.ofText argument
    (beginnings path.names).filterMap fun names => everything.place? here { path with names }
  let around := (beginnings here).flatMap fun path => [path, path ++ [Configuration.fileName]]
  (around ++ [here ++ ["src"]] ++ given).eraseDups

/-- What stands at a path of the file system: a file if its content can be read, a directory if it
can only be opened. -/
def readNode (path : List String) : IO (Option FileNode) := do
  let name := "/" ++ String.intercalate "/" path
  try
    let content ← IO.FS.readBinFile name
    return some (.file content.toList)
  catch _ =>
    try
      let _ ← IO.FS.Handle.mk name .read
      return some .directory
    catch _ => return none

/-- The files at the paths. -/
def readTree (paths : List (List String)) : IO FileTree := do
  let mut nodes := #[]
  for path in paths do
    if let some node ← readNode path then nodes := nodes.push (path, node)
  return ⟨"", nodes.toList⟩

/-- The output of the host linter, if the arguments ask for an audit. -/
def readOutcome (arguments : List String) : IO Audit.ProcessOutcome := do
  match Invocation.ofArguments? arguments with
  | some ⟨_, .check ..⟩ => return .ended 0 (← (← IO.getStdin).readToEnd) ""
  | _ => return .ended 0 "" ""

end MarkerLint.CommandLine

open MarkerLint.CommandLine in
/-- Runs the program. -/
def main (arguments : List String) : IO UInt32 := do
  let here := (MarkerLint.GivenPath.ofText (← IO.currentDir).toString).names
  let files ← readTree (pathsToRead here arguments)
  let outcome ← readOutcome arguments
  match run ⟨files, here, "python", fun _ => outcome⟩ arguments with
  | .error fault =>
      IO.eprintln fault.message
      return 1
  | .ok .misuse =>
      IO.eprintln "Usage: aabha-lint [-v] (check [PATH] [--disable ID]... | rules | markers FILE)"
      return 2
  | .ok (.exit e) =>
      IO.print e.output
      IO.eprint e.errors
      return e.status.toUInt32
