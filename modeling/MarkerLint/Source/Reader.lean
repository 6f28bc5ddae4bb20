import MarkerLint.Files
import MarkerLint.Log
import MarkerLint.Source.Grammar.Statement
import MarkerLint.Text.Margin
import MarkerLint.Text.Utf8

/-!
# Reading modules

From the bytes of a file to its syntax tree. The text loses its margin first, so that a module which
is indented as a whole can be read; a file that cannot be read has no tree, and the log says so.
-/

namespace MarkerLint.Source

/-- The statements of a text. -/
def bodyOf? (cs : List Char) : Option (List Stmt) := do
  let cs := Text.dropMargin (Text.unifyLineEnds cs) ++ ['\n']
  let tokens ← tokens? cs
  moduleBody (40 * (cs.length + 1)) tokens

/-- The module that the bytes of a file stand for. -/
def Module.ofBytes? (path : String) (content : List UInt8) : Option Module :=
  match Text.Utf8.decode content with
  | .error _ => none
  | .ok cs => (bodyOf? cs).map fun body => ⟨some path, "", body⟩

/-- The note on a file that could not be read. -/
def unparsed (path : String) : LogEntry :=
  ⟨.debug, .extraction, .ok ("Could not parse " ++ path)⟩

/-- The module at a path, seen from a current directory; none if nothing is there or if it cannot be
read. -/
def readModule (t : FileTree) (here : List String) (path : String) : Logged (Option Module) :=
  match t.lookup? here (.ofText path) with
  | none => ⟨none, []⟩
  | some (_, .directory) => ⟨none, [unparsed path]⟩
  | some (place, .file content) =>
      match Module.ofBytes? (t.pathText place) content with
      | some m => ⟨some m, []⟩
      | none => ⟨none, [unparsed path]⟩

end MarkerLint.Source
