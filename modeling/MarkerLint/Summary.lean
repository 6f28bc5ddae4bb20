import MarkerLint.Number.Decimal
import MarkerLint.Table
import MarkerLint.Text.Ascending
import MarkerLint.Text.Lines

/-!
# The summary of a lint run

A table of the messages of a run: one row for each code, one column for each directory that the
messages come from. A row is a table of cells in which the symbol and the total stand under keys of
their own beside the counts of the directories, so a directory with the name of such a key shares
its cell. Reading a shared cell as a count fails unless the symbol is a number.
-/

namespace MarkerLint.Summary

/-- The name of the reporter that prints the summary. -/
def reporterName : String := "aabha-summary"

/-- A message of the run. -/
structure Message where
  code : String
  symbol : String
  path : String
deriving DecidableEq, Repr

/-- The parts of a path that name something. -/
def pathParts (path : String) : List (List Char) :=
  (Text.splitAt '/' path.toList).filter fun part => part != [] && part != ['.']

/-- The name of the directory that holds a file. -/
def markerDirectory (path : String) : String :=
  match (pathParts path).dropLast.getLast? with
  | some name => String.ofList name
  | none => "."

/-- A cell of a row. -/
inductive Cell where
  | symbol (s : String)
  | count (n : Int)
deriving DecidableEq, Repr

/-- The cells of a row. -/
abbrev Row := Table Cell

/-- The key of the symbol. -/
def symbolKey : String := "name"

/-- The key of the total. -/
def totalKey : String := "total"

/-- The count in a cell; a missing cell counts as zero. -/
def countOf : Option Cell → Except Fault Int
  | none => .ok 0
  | some (.count n) => .ok n
  | some (.symbol s) => Decimal.read s

/-- The text of a cell, or a text to use where the cell is missing. -/
def cellText (fallback : String) : Option Cell → Except Fault String
  | none => .ok fallback
  | some (.symbol s) => .ok s
  | some (.count n) => Decimal.text? n

/-- Adds one to the count under a key. -/
def increment (key : String) (row : Row) : Except Fault Row := do
  let n ← countOf (row.get? key)
  .ok (row.insert key (.count (n + 1)))

/-- The row of a code with one more message. -/
def addToRow (row : Row) (m : Message) : Except Fault Row := do
  let row ← increment (markerDirectory m.path) (row.insert symbolKey (.symbol m.symbol))
  increment totalKey row

/-- The rows of the table so far, with one more message. -/
def addMessage (rows : Table Row) (m : Message) : Except Fault (Table Row) := do
  let row ← addToRow ((rows.get? m.code).getD []) m
  .ok (rows.insert m.code row)

/-- The rows of the table with more messages. -/
def addMessages (rows : Table Row) : List Message → Except Fault (Table Row)
  | [] => .ok rows
  | m :: rest => do
      let rows ← addMessage rows m
      addMessages rows rest

/-- The directories of messages in ascending order. -/
def directories (messages : List Message) : List String :=
  Text.ascending (messages.map fun m => markerDirectory m.path)

/-- The texts of the cells under keys. -/
def cellTexts (row : Row) (keys : List String) : Except Fault (List String) :=
  keys.mapM fun key => cellText "0" (row.get? key)

/-- The columns take at least the widths of a row. -/
def widen (columns : List String) (code : String) (row : Row) (widths : List Nat) :
    Except Fault (List Nat) := do
  let symbol ← cellText "" (row.get? symbolKey)
  let total ← cellText "0" (row.get? totalKey)
  let counts ← cellTexts row columns
  .ok (List.zipWith max widths ((code :: symbol :: total :: counts).map String.length))

/-- The columns take at least the widths of all rows. -/
def widenAll (columns : List String) (widths : List Nat) (rows : Table Row) :
    Except Fault (List Nat) :=
  rows.foldlM (fun widths e => widen columns e.1 e.2 widths) widths

/-- A row as it is printed. -/
structure Line where
  code : String
  symbol : String
  total : Int
  counts : List Int

/-- The counts of a row under keys. -/
def countsOf (row : Row) (keys : List String) : Except Fault (List Int) :=
  keys.mapM fun key => countOf (row.get? key)

/-- The line of a row. -/
def lineOf (columns : List String) (code : String) (row : Row) : Except Fault Line := do
  let symbol ← cellText "" (row.get? symbolKey)
  let total ← countOf (row.get? totalKey)
  let counts ← countsOf row columns
  .ok ⟨code, symbol, total, counts⟩

/-- The lines of rows, in order. -/
def linesOf (columns : List String) (rows : Table Row) : Except Fault (List Line) :=
  rows.mapM fun e => lineOf columns e.1 e.2

/-- The total in a row; a total is always a count. -/
def totalOf (row : Row) : Int :=
  match row.get? totalKey with
  | some (.count n) => n
  | _ => 0

/-- The first row comes before the second: its total is greater, or the same and its code is no
greater. -/
def precedes (a b : String × Row) : Bool :=
  decide (totalOf b.2 < totalOf a.2)
    || (totalOf a.2 == totalOf b.2 && decide (a.1 ≤ b.1))

/-- The sums of the columns. -/
def columnSums (columns : List String) (lines : List Line) : List Int :=
  lines.foldl (fun sums line => List.zipWith (· + ·) sums line.counts) (columns.map fun _ => 0)

/-- The sum of all totals. -/
def grandTotal (lines : List Line) : Int :=
  lines.foldl (fun total line => total + line.total) 0

/-- The text with spaces up to a width. -/
def pad (width : Nat) (s : String) : String :=
  s ++ String.ofList (List.replicate (width - s.length) ' ')

/-- The escape that begins a style of the terminal. -/
def style (code : String) : String :=
  String.ofList [Char.ofNat 27] ++ "[" ++ code ++ "m"

/-- The styles of the table. -/
def red : String := style "31"

/-- The style of titles and rules. -/
def blue : String := style "34"

/-- The style of sums. -/
def gold : String := style "33"

/-- The plain style. -/
def plain : String := style "0"

/-- The bold style. -/
def bold : String := style "1"

/-- Texts padded to the widths of their columns. -/
def padAll (widths : List Nat) (texts : List String) : List String :=
  List.zipWith pad widths texts

/-- Cells side by side. -/
def joined (cells : List String) : String :=
  String.intercalate " | " cells

/-- A dash for each column of a width. -/
def dashes (width : Nat) : String :=
  String.ofList (List.replicate width '-')

/-- The texts of counts. -/
def countTexts (counts : List Int) : Except Fault (List String) :=
  counts.mapM Decimal.text?

/-- The printed form of a line. -/
def Line.text (widths : List Nat) (l : Line) : Except Fault String := do
  let total ← Decimal.text? l.total
  let counts ← countTexts l.counts
  .ok
    (joined
      ([red ++ pad (widths.getD 0 0) l.code ++ plain,
        pad (widths.getD 1 0) l.symbol,
        bold ++ pad (widths.getD 2 0) total ++ plain] ++ padAll (widths.drop 3) counts))

/-- The printed forms of lines. -/
def lineTexts (widths : List Nat) (lines : List Line) : Except Fault (List String) :=
  lines.mapM (Line.text widths)

/-- The row of sums. -/
def sumsText (widths : List Nat) (total : Int) (sums : List Int) : Except Fault String := do
  let totalText ← Decimal.text? total
  let sumTexts ← countTexts sums
  .ok
    (joined
      ([bold ++ gold ++ pad (widths.getD 0 0) "Total" ++ plain,
        pad (widths.getD 1 0) " ",
        bold ++ gold ++ pad (widths.getD 2 0) totalText ++ plain]
        ++ (padAll (widths.drop 3) sumTexts).map fun s => bold ++ gold ++ s ++ plain))

/-- What the table shows: a column for each directory, the widths of all columns, the lines, and the
sums of the totals and of the columns. -/
structure Sheet where
  columns : List String
  widths : List Nat
  lines : List Line
  total : Int
  sums : List Int

/-- The titles of all columns. -/
def titles (columns : List String) : List String :=
  ["Code", "Symbol", "Total"] ++ columns

/-- The sheet of messages. -/
def sheet (messages : List Message) : Except Fault Sheet := do
  let rows ← addMessages [] messages
  let columns := directories messages
  let widths ← widenAll columns ((titles columns).map String.length) rows
  let lines ← linesOf columns (rows.mergeSort precedes)
  .ok
    { columns := columns
      widths := widths
      lines := lines
      total := grandTotal lines
      sums := columnSums columns lines }

/-- The printed lines of a sheet. -/
def Sheet.texts (s : Sheet) : Except Fault (List String) := do
  let body ← lineTexts s.widths s.lines
  let sums ← sumsText s.widths s.total s.sums
  let total ← Decimal.text? s.total
  .ok
    (["",
      bold ++ blue ++ joined (padAll s.widths (titles s.columns)) ++ plain,
      blue ++ String.intercalate "-|-" (s.widths.map dashes) ++ plain]
      ++ body
      ++ [blue ++ dashes (s.widths.foldl (· + ·) 0 + 3 * (s.widths.length - 1)) ++ plain,
        sums,
        "",
        bold ++ red ++ total ++ " Aabha model inconsistencies detected." ++ plain])

/-- The summary of a run. -/
def render (messages : List Message) : Except Fault String := do
  let lines ←
    if messages.isEmpty then
      .ok [bold ++ gold ++ "No Aabha model inconsistencies detected." ++ plain]
    else (sheet messages).bind Sheet.texts
  .ok (String.join (lines.map (· ++ "\n")))

/-- What the host asks of the reporter: to take a message, to show a section of the host's own report,
or to close. -/
inductive Call where
  | handle (m : Message)
  | display
  | close
deriving DecidableEq, Repr

/-- The messages after a call. -/
def Call.collect (messages : List Message) : Call → List Message
  | .handle m => messages ++ [m]
  | .display => messages
  | .close => messages

/-- What a call prints. The sections of the host's report are not shown; the summary replaces them. -/
def Call.printed (messages : List Message) : Call → Except Fault String
  | .handle _ => .ok ""
  | .display => .ok ""
  | .close => render messages

/-- What is seen of a call: how many messages there are after it, and what it prints. -/
structure Answer where
  count : Nat
  printed : Except Fault String

/-- The answers to calls after messages, one after the other. -/
def answersFrom (messages : List Message) : List Call → List Answer
  | [] => []
  | c :: rest =>
      ⟨(c.collect messages).length, c.printed messages⟩ :: answersFrom (c.collect messages) rest

/-- The answers of a new reporter to calls. -/
def answers (calls : List Call) : List Answer :=
  answersFrom [] calls

end MarkerLint.Summary
