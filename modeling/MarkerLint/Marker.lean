import MarkerLint.Source.Rendering
import MarkerLint.Value

/-!
# Markers

A marker is a decorator of a class whose name is in the vocabulary. Its arguments are read as data
without evaluating anything: constants become values, names and attributes become their text, and an
expression of any other form is left out.
-/

namespace MarkerLint

open Source

/-- The names of markers, in order. -/
def vocabulary : List String :=
  ["Action", "Attribute", "Behavior", "BusinessInitiative", "Collaboration", "Context",
   "Expectation", "Interaction", "Journey", "Metric", "Milestone", "Persona", "Stakeholder", "Step",
   "Strategy", "Test", "Witness"]

/-- What stands in a text for each expression embedded in it. -/
def expressionPlaceholder : String := "$\x7b...\x7d"

/-- The value of a constant, if constants of its kind are data. -/
def Source.Constant.value? : Constant → Option Datum
  | .null => some .null
  | .boolean b => some (.boolean b)
  | .text s => some (.text s)
  | .integer i => some (.integer i)
  | .float x => some (.float x)
  | .imaginary _ => none
  | .bytes _ => none
  | .ellipsis => none

/-- The value of a number with a sign before it. -/
def signedNumber? (op : String) : Expr → Option Datum
  | .constant _ (.integer i) =>
      if op = "-" then some (.integer (-i)) else if op = "+" then some (.integer i) else none
  | .constant _ (.float x) =>
      if op = "-" then some (.float x.neg) else if op = "+" then some (.float x) else none
  | _ => none

/-- The text of a text with embedded expressions, each one replaced by the placeholder. -/
def joinedValue (parts : List Expr) : CodeText :=
  parts.flatMap fun
    | .constant _ (.text s) => s
    | _ => expressionPlaceholder

/-- The key that an expression stands for in a table, if it is one. -/
def keyOf? : Expr → Except Unwritable (Option CodeText)
  | .constant _ (.text s) => .ok (some s)
  | .name _ id => .ok (some id)
  | e@(.attribute ..) => (some ∘ CodeText.ofString) <$> e.text?
  | .malformed _ => .error .malformedName
  | _ => .ok none

mutual

/-- The value that an expression is read as; none if it is left out. -/
def literal? : Expr → Except Unwritable (Option Datum)
  | .constant _ c => .ok c.value?
  | .unary _ op operand => .ok (signedNumber? op operand)
  | .sequence _ _ items => do
      let values ← literalItems items
      .ok (some (.list values))
  | .dict _ entries => do
      let t ← literalEntries [] entries
      .ok (some (.table t))
  | .name _ id => .ok (some (.text id))
  | e@(.attribute ..) => (some ∘ Data.text ∘ CodeText.ofString) <$> e.text?
  | .malformed _ => .error .malformedName
  | .joined _ parts => .ok (some (.text (joinedValue parts)))
  | .call .. => .ok none
  | .embedded .. => .ok none
  | .subscript .. => .ok none
  | .starred .. => .ok none
  | .computed .. => .ok none

/-- The values of the items that are not left out. -/
def literalItems : List Expr → Except Unwritable (List Datum)
  | [] => .ok []
  | e :: rest => do
      let value ← literal? e
      let values ← literalItems rest
      .ok (match value with
        | some v => v :: values
        | none => values)

/-- Writes the entries that are not left out into a table, one after the other. -/
def literalEntries (t : Table Datum CodeText) :
    List (Option Expr × Expr) → Except Unwritable (Table Datum CodeText)
  | [] => .ok t
  | (none, _) :: rest => literalEntries t rest
  | (some key, e) :: rest => do
      match ← keyOf? key with
      | none => literalEntries t rest
      | some k =>
          match ← literal? e with
          | none => literalEntries t rest
          | some v => literalEntries (t.insert k v) rest

end

/-- Writes the keyword arguments that are not left out into a table, one after the other. -/
def literalKeywords (t : Table Datum CodeText) :
    List (String × Expr) → Except Unwritable (Table Datum CodeText)
  | [] => .ok t
  | (k, e) :: rest => do
      match ← literal? e with
      | none => literalKeywords t rest
      | some v => literalKeywords (t.insert k v) rest

/-- What was made of the arguments of a marker. -/
inductive Reading where
  /-- They were read as a table. -/
  | metadata (entries : Table Datum CodeText)
  /-- They do not have the form of a table. -/
  | notATable
  /-- They hold an expression that could not be written as text. -/
  | unwritable (cause : Unwritable)
deriving Inhabited

/-- The names of keyword arguments, if each has one. -/
def namedKeywords? : List (Option String × Expr) → Option (List (String × Expr))
  | [] => some []
  | (some k, e) :: rest => (namedKeywords? rest).map ((k, e) :: ·)
  | (none, _) :: _ => none

/-- The outcome of reading a table. -/
def Reading.ofTable : Except Unwritable (Table Datum CodeText) → Reading
  | .ok t => .metadata t
  | .error cause => .unwritable cause

/-- Reads the arguments of a decorator: one table, or keyword arguments that all have a name. -/
def readArguments : Expr → Reading
  | .call _ _ [.dict _ entries] [] => .ofTable (literalEntries [] entries)
  | .call _ _ [] (k :: ks) =>
      match namedKeywords? (k :: ks) with
      | some keywords => .ofTable (literalKeywords [] keywords)
      | none => .notATable
  | _ => .notATable

/-- A marker on a declaration. -/
structure Marker where
  name : String
  span : Span
  location : String
  reading : Reading
deriving Inhabited

namespace Marker

/-- The arguments were read as a table. -/
def isParseable (m : Marker) : Bool :=
  match m.reading with
  | .metadata _ => true
  | _ => false

/-- The metadata, empty unless the arguments were read. -/
def metadata (m : Marker) : Table Datum CodeText :=
  match m.reading with
  | .metadata entries => entries
  | _ => []

/-- The field of the metadata, or the given value if there is none. -/
def getD (m : Marker) (field : String) (fallback : Datum) : Datum :=
  (m.metadata.get? (field : CodeText)).getD fallback

/-- The field of the metadata, null if there is none. -/
def get (m : Marker) (field : String) : Datum :=
  m.getD field .null

end Marker

/-- The name in the vocabulary that an expression ends in. -/
def markerNameOf? : Expr → Option String
  | .name _ id => if vocabulary.contains id then some id else none
  | .attribute _ _ attr => if vocabulary.contains attr then some attr else none
  | _ => none

/-- The name of the marker that a decorator is, if it is one. -/
def markerName? : Expr → Option String
  | .call _ callee _ _ => markerNameOf? callee
  | e => markerNameOf? e

/-- A position in a location. -/
def positionText : Option Int → String
  | some n => Decimal.text n
  | none => "None"

/-- Where a node stands: path, line and column. -/
def locationText (path : String) (span : Span) : String :=
  path ++ ":" ++ positionText span.line ++ ":" ++ positionText span.column

/-- The marker that a decorator is, if it is one. -/
def Marker.ofDecorator? (path : String) (decorator : Expr) : Option Marker :=
  (markerName? decorator).map fun name =>
    { name
      span := decorator.span
      location := locationText path decorator.span
      reading := readArguments decorator }

/-- The markers on a declaration, in the order of its decorators. -/
def markersOf (path : String) (d : Declaration) : List Marker :=
  d.decorators.filterMap (Marker.ofDecorator? path)

end MarkerLint
