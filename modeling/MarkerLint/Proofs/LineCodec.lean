import MarkerLint.Proofs.Grouping

/-!
# Messages sent as lines

The host sends its messages as lines in the layout of reports, among lines of its own. The audit gets
back what was sent: the messages are grouped, and nothing else is taken for one, whatever their texts
hold.
-/

namespace MarkerLint.Audit

/-- A message that the host sends about a place in a file. -/
structure Record where
  path : String
  line : Nat
  column : Nat
  code : String
  message : String
  symbol : String
deriving DecidableEq, Repr

/-- The report of a record. -/
def Record.report (r : Record) : Report :=
  { path := r.path
    line := Decimal.text r.line
    column := Decimal.text r.column
    code := r.code
    message := r.message
    symbol := r.symbol }

/-- The record can be sent: its code is a capital letter and four digits, its symbol is made of
letters, digits, low lines and hyphens, path and text have no line end, and the path holds no whole
head. -/
structure Record.IsSendable (r : Record) : Prop where
  code : IsCode r.code.toList
  symbol_ne_nil : r.symbol.toList ≠ []
  symbol_chars : ∀ c ∈ r.symbol.toList, isSymbolChar c = true
  path_unbroken : ∀ c ∈ r.path.toList, Text.isLineBreak c = false
  message_unbroken : ∀ c ∈ r.message.toList, Text.isLineBreak c = false
  path_headless : IsHeadless r.path.toList

instance (r : Record) : Decidable r.IsSendable :=
  decidable_of_iff
    (IsCode r.code.toList ∧ r.symbol.toList ≠ [] ∧ r.symbol.toList.all isSymbolChar = true ∧
      r.path.toList.any Text.isLineBreak = false ∧ r.message.toList.any Text.isLineBreak = false ∧
      IsHeadless r.path.toList)
    (by
      rw [List.all_eq_true, List.any_eq_false, List.any_eq_false]
      simp only [Bool.not_eq_true]
      exact ⟨fun ⟨hcode, hne, hsymbol, hpath, hmessage, hfree⟩ =>
          ⟨hcode, hne, hsymbol, hpath, hmessage, hfree⟩,
        fun h => ⟨h.code, h.symbol_ne_nil, h.symbol_chars, h.path_unbroken, h.message_unbroken,
          h.path_headless⟩⟩)

/-- A line that the host prints: a record, or anything else. -/
inductive OutputLine where
  | record (r : Record)
  | other (text : String)
deriving DecidableEq, Repr

namespace OutputLine

/-- What the line says. -/
def text : OutputLine → String
  | .record r => layOut reportLayout r.report
  | .other t => t

/-- The report that is sent on the line. -/
def report? : OutputLine → Option Report
  | .record r => some r.report
  | .other _ => none

/-- The line can be told apart: a record can be sent, and anything else has no line end and is no
report. -/
def IsClear : OutputLine → Prop
  | .record r => r.IsSendable
  | .other t => (∀ c ∈ t.toList, Text.isLineBreak c = false) ∧ ¬ IsReportLine t.toList

instance : DecidablePred IsClear
  | .record r => inferInstanceAs (Decidable r.IsSendable)
  | .other t =>
      decidable_of_iff (t.toList.any Text.isLineBreak = false ∧ ¬ IsReportLine t.toList)
        (by
          rw [List.any_eq_false]
          simp only [Bool.not_eq_true]
          exact Iff.rfl)

end OutputLine

/-- The output that has the lines, each ended by a line feed. -/
def outputOf (lines : List OutputLine) : String :=
  String.join (lines.map fun l => l.text ++ "\n")

theorem Record.IsSendable.isWellFormed {r : Record} (h : r.IsSendable) :
    r.report.IsWellFormed where
  line := isNumber_text (Int.natCast_nonneg r.line)
  column := isNumber_text (Int.natCast_nonneg r.column)
  code := h.code
  symbol_ne_nil := h.symbol_ne_nil
  symbol_chars := h.symbol_chars

theorem OutputLine.IsClear.isLineBreak {l : OutputLine} (h : l.IsClear) :
    ∀ c ∈ l.text.toList, Text.isLineBreak c = false := by
  cases l with
  | other t => exact h.1
  | record r =>
      have hsend : r.IsSendable := h
      rw [OutputLine.text, layOut_reportLayout]
      exact hsend.isWellFormed.isLineBreak_text hsend.path_unbroken hsend.message_unbroken

/-- A line is read as what is sent on it. -/
theorem OutputLine.IsClear.read?_text {l : OutputLine} (h : l.IsClear) :
    Report.read? l.text.toList = l.report? := by
  cases l with
  | other t =>
      have hnone : ¬ (Report.read? t.toList).isSome := fun hsome => h.2 (isSome_read?_iff.mp hsome)
      exact Option.not_isSome_iff_eq_none.mp hnone
  | record r =>
      have hsend : r.IsSendable := h
      rw [OutputLine.text, layOut_reportLayout]
      exact Report.read?_text hsend.isWellFormed hsend.path_headless

/-- Lines without line ends are printed as they are. -/
theorem lines_outputOf {lines : List OutputLine} (h : ∀ l ∈ lines, l.IsClear) :
    Text.lines (outputOf lines).toList = lines.map fun l => l.text.toList := by
  have hjoin : (outputOf lines).toList =
      (lines.map fun l => l.text.toList).flatMap (· ++ ['\n']) := by
    simp [outputOf, String.toList_join, List.flatMap_map]
  have hline : ∀ l ∈ lines, Text.lines (l.text.toList ++ ['\n']) = [l.text.toList] :=
    fun l hl => Text.lines_unbroken (h l hl).isLineBreak
  rw [hjoin, Text.lines_flatMap, List.flatMap_map, List.map_eq_flatMap]
  exact List.flatMap_congr hline

/-- Whatever texts the messages hold, the audit of an output with these lines has the groups of the
messages that are sent on them. The output that is printed has these lines. -/
theorem resultsIn_lines {lines : List OutputLine} (h : ∀ l ∈ lines, l.IsClear) :
    Text.lines (outputOf lines).toList = (lines.map fun l => l.text.toList) ∧
      ∀ output : String, Text.lines output.toList = (lines.map fun l => l.text.toList) →
        IsGroupingOf (lines.filterMap OutputLine.report?) (resultsIn output) := by
  refine ⟨lines_outputOf h, fun output houtput => ?_⟩
  have hreports : reportsIn output = lines.filterMap OutputLine.report? := by
    rw [reportsIn, houtput, List.filterMap_map]
    exact List.filterMap_congr fun l hl => (h l hl).read?_text
  rw [resultsIn, hreports]
  exact isGroupingOf_group _

/-- Messages whose texts and paths look like parts of reports, among other lines. -/
def deceptiveLines : List OutputLine :=
  [.other "************* Module a",
    .record ⟨"src/a:12:3.py", 10, 4, "E5401", "x: W5101: y (old) (other-symbol)", "missing-timeline"⟩,
    .other "src/a.py:1:2: E54: too short (missing-timeline)",
    .record ⟨"b:1", 2, 0, "W5101", "b.py:3:4: E5401: quoted", "no-validation"⟩,
    .other "",
    .record ⟨"a.py", 7, 0, "E5401", "", "missing-timeline"⟩]

theorem resultsIn_lines_deceptiveLines :
    (∀ l ∈ deceptiveLines, l.IsClear) ∧
      Text.lines (outputOf deceptiveLines).toList = (deceptiveLines.map fun l => l.text.toList) ∧
      IsGroupingOf (deceptiveLines.filterMap OutputLine.report?)
        (resultsIn (outputOf deceptiveLines)) := by
  have hclear : ∀ l ∈ deceptiveLines, l.IsClear := by decide +kernel
  obtain ⟨hlines, hresults⟩ := resultsIn_lines hclear
  exact ⟨hclear, hlines, hresults _ hlines⟩

end MarkerLint.Audit
