import MarkerLint.Text.CharClass
import MarkerLint.Text.Lines
import MarkerLint.Text.Search

/-!
# Report lines

The host linter reports each message on a line of its own: path, line, column, code, text and
symbol. The path ends where the first complete head begins, and the symbol is the last part in
brackets, so path and text may themselves hold colons and brackets.
-/

namespace MarkerLint.Audit

/-- A report of one message. The numbers are kept as they are written. -/
structure Report where
  path : String
  line : String
  column : String
  code : String
  message : String
  symbol : String
deriving DecidableEq, Repr

/-- The place of a report. -/
def Report.location (r : Report) : String :=
  r.path ++ ":" ++ r.line ++ ":" ++ r.column

/-- The line of a report. -/
def Report.text (r : Report) : String :=
  r.location ++ ": " ++ r.code ++ ": " ++ r.message ++ " (" ++ r.symbol ++ ")"

/-- The layout that the host is asked to report in. -/
def reportLayout : String :=
  "\x7bpath\x7d:\x7bline\x7d:\x7bcolumn\x7d: \x7bmsg_id\x7d: \x7bmsg\x7d (\x7bsymbol\x7d)"

/-- A number at the beginning of a text: its digits and the rest. -/
def number? (cs : List Char) : Option (List Char × List Char) :=
  match cs.span Text.isDecimal with
  | ([], _) => none
  | (digits, rest) => some (digits, rest)

/-- One of the capital letters A to Z. -/
def isCapital (c : Char) : Bool :=
  decide ('A' ≤ c) && decide (c ≤ 'Z')

/-- A code at the beginning of a text: a capital letter, then four digits. -/
def code? : List Char → Option (List Char × List Char)
  | a :: b :: c :: d :: e :: rest =>
      if isCapital a && [b, c, d, e].all Text.isDecimal then some ([a, b, c, d, e], rest) else none
  | _ => none

/-- What stands between the path and the text of a report. -/
structure Head where
  line : List Char
  column : List Char
  code : List Char

/-- A head at the beginning of a text, and the rest. -/
def head? (cs : List Char) : Option (Head × List Char) := do
  let cs ← Text.after? [':'] cs
  let (line, cs) ← number? cs
  let cs ← Text.after? [':'] cs
  let (column, cs) ← number? cs
  let cs ← Text.after? [':', ' '] cs
  let (code, cs) ← code? cs
  let cs ← Text.after? [':', ' '] cs
  some (⟨line, column, code⟩, cs)

/-- A character of a symbol. -/
def isSymbolChar (c : Char) : Bool :=
  Text.isWord c || c == '-'

/-- The text and the symbol that a text ends in. -/
def tail? (cs : List Char) : Option (List Char × List Char) :=
  match cs.reverse with
  | ')' :: back =>
      match back.span isSymbolChar with
      | ([], _) => none
      | (symbol, '(' :: ' ' :: message) => some (message.reverse, symbol.reverse)
      | _ => none
  | _ => none

/-- A report whose path is finished. -/
def reportAfter? (path cs : List Char) : Option Report := do
  let (head, rest) ← head? cs
  let (message, symbol) ← tail? rest
  some
    { path := String.ofList path
      line := String.ofList head.line
      column := String.ofList head.column
      code := String.ofList head.code
      message := String.ofList message
      symbol := String.ofList symbol }

/-- A report after the beginning of its path, which is given in reverse. -/
def readFrom (path : List Char) : List Char → Option Report
  | [] => reportAfter? path.reverse []
  | c :: rest =>
      match reportAfter? path.reverse (c :: rest) with
      | some r => some r
      | none => readFrom (c :: path) rest

/-- The report on a line, if the line is one. -/
def Report.read? (line : List Char) : Option Report :=
  readFrom [] line

/-- The reports in the output of the host. Other lines are passed over. -/
def reportsIn (output : String) : List Report :=
  (Text.lines output.toList).filterMap Report.read?

end MarkerLint.Audit
