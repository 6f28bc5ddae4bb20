import MarkerLint.Configuration
import MarkerLint.Files
import MarkerLint.Toml.Reading

/-!
# The configuration file

The settings stand in a section of the nearest project file: the one in the directory at hand, or in
the nearest directory around it. A file that cannot be read leaves the settings empty, with a
warning.
-/

namespace MarkerLint.Configuration

/-- The name of a project file. -/
def fileName : String := "pyproject.toml"

/-- The key of the section that tools share. -/
def toolKey : String := "tool"

/-- The key of this program's section among those of the tools. -/
def sectionKey : String := "aabha-lint"

/-- This program's section, and the whole section of the tools. -/
structure Sections where
  settings : Value
  tool : Value

/-- Empty sections. -/
def Sections.empty : Sections := ⟨.table [], .table []⟩

/-- The entry under a key; an empty table where it is missing or not given. -/
def givenOrEmpty (v : Option Value) : Value :=
  (Data.given? v).getD (.table [])

/-- The sections of a document. -/
def Sections.ofDocument (document : Table Value) : Except Fault Sections := do
  let tool := givenOrEmpty (document.get? toolKey)
  let settings ← tool.get? sectionKey
  .ok ⟨givenOrEmpty settings, tool⟩

/-- The warning about a file that cannot be read. -/
def unreadable (path : String) : LogEntry :=
  ⟨.warning, .configurationFile, .ok ("Configuration Warning: cannot read " ++ path)⟩

/-- The sections of a file at a path. -/
def readFile (path : String) : FileNode → Logged (Except Fault Sections)
  | .directory => ⟨.ok .empty, [unreadable path]⟩
  | .file content =>
      match Text.Utf8.decode content with
      | .error refusal => ⟨.error (.undecodable refusal), []⟩
      | .ok text =>
          match Toml.read text with
          | .ok document => ⟨Sections.ofDocument document, []⟩
          | .error .malformed => ⟨.ok .empty, [unreadable path]⟩
          | .error (.longInteger digits) => ⟨.error (.tooManyDigitsToRead digits), []⟩

/-- The sections of the nearest file, seen from a directory. -/
def readNearest (t : FileTree) (start : List String) : Logged (Except Fault Sections) :=
  match t.nearest? fileName start with
  | none => ⟨.ok .empty, []⟩
  | some (path, n) => readFile (t.pathText path) n

/-- The sections of the nearest file, seen from a given path. Outside the tree there is no file. -/
def readFrom (t : FileTree) (p : GivenPath) : Logged (Except Fault Sections) :=
  match t.place? [] p with
  | some start => readNearest t start
  | none => ⟨.ok .empty, []⟩

/-- The configuration of the project around a directory. -/
def ofProject (t : FileTree) (start : List String) : Logged (Except Fault Configuration) :=
  let sections := readNearest t start
  match sections.value with
  | .error f => ⟨.error f, sections.log⟩
  | .ok s =>
      let c := load s.settings s.tool
      ⟨c.value, sections.log ++ c.log⟩

end MarkerLint.Configuration
