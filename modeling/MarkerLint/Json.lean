import MarkerLint.Inspection
import MarkerLint.Number.Shortest
import MarkerLint.Value

/-!
# Inspections as JSON

Documents with two spaces of indentation for each level, in ASCII: every other character is written
as an escape. Numbers beyond the standard are written as words.
-/

namespace MarkerLint

/-- A document. -/
inductive Json where
  | null
  | boolean (b : Bool)
  | text (s : CodeText)
  | integer (i : Int)
  | float (x : Binary64)
  | list (items : List Json)
  | object (members : List (CodeText × Json))
deriving Inhabited

namespace Json

mutual

/-- A value of metadata as a document. -/
def ofValue : Datum → Json
  | .null => .null
  | .boolean b => .boolean b
  | .text s => .text s
  | .integer i => .integer i
  | .float x => .float x
  | .moment m => nomatch m
  | .list items => .list (ofValues items)
  | .table entries => .object (ofEntries entries)

/-- Values as documents. -/
def ofValues : List Datum → List Json
  | [] => []
  | v :: rest => ofValue v :: ofValues rest

/-- Entries as members. -/
def ofEntries : List (CodeText × Datum) → List (CodeText × Json)
  | [] => []
  | (k, v) :: rest => (k, ofValue v) :: ofEntries rest

end

/-- One escape for a unit of UTF-16. -/
def unitEscape (n : Nat) : List Char :=
  '\\' :: 'u' :: Text.Quoted.hex 4 n

/-- A character inside quotation marks. -/
def escapedChar (c : Char) : List Char :=
  let n := c.toNat
  if c = '"' then ['\\', '"']
  else if c = '\\' then ['\\', '\\']
  else if c = '\n' then ['\\', 'n']
  else if c = '\r' then ['\\', 'r']
  else if c = '\t' then ['\\', 't']
  else if n = 8 then ['\\', 'b']
  else if n = 12 then ['\\', 'f']
  else if 32 ≤ n ∧ n < 127 then [c]
  else if n < 0x10000 then unitEscape n
  else unitEscape (0xD800 + (n - 0x10000) / 0x400) ++ unitEscape (0xDC00 + (n - 0x10000) % 0x400)

/-- A code point inside quotation marks. A surrogate is a unit of UTF-16 by itself. -/
def escaped : CodePoint → List Char
  | .char c => escapedChar c
  | .surrogate offset => unitEscape (CodePoint.surrogate offset).toNat

/-- A text in quotation marks. -/
def quoted (s : CodeText) : String :=
  String.ofList ('"' :: s.flatMap escaped ++ ['"'])

/-- A number of any kind. -/
def floatText : Binary64 → String
  | .nan => "NaN"
  | .infinite negative => if negative then "-Infinity" else "Infinity"
  | x => Shortest.text x

/-- The beginning of a line at a level. -/
def lineStart (level : Nat) : String :=
  "\n" ++ String.ofList (List.replicate (2 * level) ' ')

/-- Parts between brackets, each on a line of its own. -/
def enclosed (level : Nat) (opening closing : String) (parts : List String) : String :=
  if parts.isEmpty then opening ++ closing
  else
    opening ++ lineStart (level + 1) ++ String.intercalate ("," ++ lineStart (level + 1)) parts
      ++ lineStart level ++ closing

mutual

/-- The text of a document at a level. Only an integer beyond the digit limit has no text. -/
def textAt (level : Nat) : Json → Except Fault String
  | .null => .ok "null"
  | .boolean b => .ok (if b then "true" else "false")
  | .text s => .ok (quoted s)
  | .integer i => Decimal.text? i
  | .float x => .ok (floatText x)
  | .list items => do
      let parts ← itemTexts (level + 1) items
      .ok (enclosed level "[" "]" parts)
  | .object members => do
      let parts ← memberTexts (level + 1) members
      .ok (enclosed level "\x7b" "\x7d" parts)

/-- The texts of the items of a list. -/
def itemTexts (level : Nat) : List Json → Except Fault (List String)
  | [] => .ok []
  | j :: rest => do
      let part ← textAt level j
      let parts ← itemTexts level rest
      .ok (part :: parts)

/-- The texts of the members of an object. -/
def memberTexts (level : Nat) : List (CodeText × Json) → Except Fault (List String)
  | [] => .ok []
  | (k, j) :: rest => do
      let part ← textAt level j
      let parts ← memberTexts level rest
      .ok ((quoted k ++ ": " ++ part) :: parts)

end

/-- The text of a document. -/
def render (j : Json) : Except Fault String :=
  textAt 0 j

/-- A number that may be missing. -/
def ofPosition : Option Int → Json
  | some i => .integer i
  | none => .null

/-- A marker as a document. -/
def ofMarker (m : Marker) : Json :=
  .object
    [("marker", .text m.name), ("location", .text m.location),
     ("parseable", .boolean m.isParseable), ("metadata", ofValue (.table m.metadata))]

/-- A diagnostic as a document. -/
def ofDiagnostic (d : Diagnostic) : Json :=
  .object
    [("rule_id", .text d.ruleId), ("msgid", .text d.code), ("symbol", .text d.symbol),
     ("severity", .text d.severity.name), ("message", .text d.message), ("line", .integer d.line),
     ("column", .integer d.column), ("end_line", ofPosition d.endLine),
     ("end_column", ofPosition d.endColumn)]

/-- What inspection says about a class, as a document. -/
def ofInspected (c : InspectedClass) : Json :=
  .object
    [("declaration", .text c.declaration), ("line", ofPosition c.line),
     ("markers", .list (c.markers.map ofMarker)),
     ("diagnostics", .list (c.diagnostics.map ofDiagnostic))]

/-- An inspection as a document. -/
def ofInspection (classes : List InspectedClass) : Json :=
  .list (classes.map ofInspected)

end Json

end MarkerLint
