import MarkerLint.Value

/-!
# The tables of a configuration file

A document is a list of statements: entries under dotted keys, and headers that open a table or add
one to a list of tables. A table is written in one place. Its header may come once, a table made by
dotted keys is closed at the next header, and a value between brackets is complete.
-/

namespace MarkerLint.Toml

/-- How far a table has been written. -/
inductive TableState where
  /-- It has been named on the way to another table only. -/
  | unwritten
  /-- It has been made by dotted keys in the given section. -/
  | dotted (sectionNumber : Nat)
  /-- It has been opened by a header. -/
  | opened
deriving DecidableEq, Repr

/-- What stands under a key while a document is being read. -/
inductive Node where
  /-- A complete value. -/
  | leaf (v : Value)
  /-- A table. -/
  | table (state : TableState) (entries : List (String × Node))
  /-- A list of tables: those that are complete, and the one that is being written. -/
  | tables (earlier : List (List (String × Node))) (last : List (String × Node))

/-- The entries of a table that is being written. -/
abbrev Nodes := Table Node

mutual

/-- The value of a node. -/
def Node.value : Node → Value
  | .leaf v => v
  | .table _ entries => .table (entryValues entries)
  | .tables earlier last => .list (tableValues earlier ++ [.table (entryValues last)])

/-- The values of entries. -/
def entryValues : List (String × Node) → List (String × Value)
  | [] => []
  | (k, n) :: rest => (k, n.value) :: entryValues rest

/-- The values of tables. -/
def tableValues : List (List (String × Node)) → List Value
  | [] => []
  | entries :: rest => .table (entryValues entries) :: tableValues rest

end

/-- Dotted keys of the section may write into the table. -/
def TableState.admits (sectionNumber : Nat) : TableState → Bool
  | .unwritten => true
  | .dotted s => s == sectionNumber
  | .opened => false

/-- Writes a value under a dotted key. -/
def assign (sectionNumber : Nat) (v : Value) : List String → Nodes → Option Nodes
  | [], _ => none
  | [k], nodes =>
      match nodes.get? k with
      | some _ => none
      | none => some (nodes.insert k (.leaf v))
  | k :: rest, nodes =>
      match nodes.get? k with
      | none => (assign sectionNumber v rest []).map fun sub =>
          nodes.insert k (.table (.dotted sectionNumber) sub)
      | some (.table state sub) =>
          if state.admits sectionNumber then
            (assign sectionNumber v rest sub).map fun sub =>
              nodes.insert k (.table (.dotted sectionNumber) sub)
          else none
      | some _ => none

/-- Changes the table that a path of keys leads to; tables on the way are made where they are
missing, and of a list of tables the last one is meant. -/
def within (change : Nodes → Option Nodes) : List String → Nodes → Option Nodes
  | [], nodes => change nodes
  | k :: rest, nodes =>
      match nodes.get? k with
      | none => (within change rest []).map fun sub => nodes.insert k (.table .unwritten sub)
      | some (.table state sub) =>
          (within change rest sub).map fun sub => nodes.insert k (.table state sub)
      | some (.tables earlier last) =>
          (within change rest last).map fun last => nodes.insert k (.tables earlier last)
      | some (.leaf _) => none

/-- Opens the table under a key. -/
def openTable (k : String) (nodes : Nodes) : Option Nodes :=
  match nodes.get? k with
  | none => some (nodes.insert k (.table .opened []))
  | some (.table .unwritten sub) => some (nodes.insert k (.table .opened sub))
  | some _ => none

/-- Adds a table to the list under a key. -/
def addTable (k : String) (nodes : Nodes) : Option Nodes :=
  match nodes.get? k with
  | none => some (nodes.insert k (.tables [] []))
  | some (.tables earlier last) => some (nodes.insert k (.tables (earlier ++ [last]) []))
  | some _ => none

/-- A statement of a document. -/
inductive Statement where
  | entry (key : List String) (v : Value)
  | table (key : List String)
  | tables (key : List String)

/-- A document while it is being read: its root, the path of the table that is being written, and
the number of headers so far. -/
structure Progress where
  root : Nodes
  path : List String
  sectionNumber : Nat

/-- The beginning of a document. -/
def Progress.start : Progress := ⟨[], [], 0⟩

/-- A document with one more statement. -/
def Progress.step (p : Progress) : Statement → Option Progress
  | .entry key v =>
      (within (assign p.sectionNumber v key) p.path p.root).map fun root => { p with root }
  | .table key =>
      (within (openTable (key.getLastD "")) key.dropLast p.root).map fun root =>
        ⟨root, key, p.sectionNumber + 1⟩
  | .tables key =>
      (within (addTable (key.getLastD "")) key.dropLast p.root).map fun root =>
        ⟨root, key, p.sectionNumber + 1⟩

/-- The tables of statements. -/
def build (statements : List Statement) : Option (Table Value) :=
  (statements.foldlM Progress.step .start).map fun p => entryValues p.root

/-- The entries of a table between brackets. Their keys may be dotted. -/
def inlineTable (entries : List (List String × Value)) : Option (Table Value) :=
  (entries.foldlM (fun nodes e => assign 0 e.2 e.1 nodes) ([] : Nodes)).map entryValues

end MarkerLint.Toml
