import MarkerLint.Audit.Command
import MarkerLint.Proofs.Grouping
import MarkerLint.Proofs.Reporting

/-!
# From the checkers to the audit

The host prints each message of the checkers in the layout of reports, and the audit reads its
results off that output. A line end in a text cuts the line, so a finding arrives if its line ends
in a symbol where it is cut, and otherwise only if some other line stands for it. A surrogate in a
text is printed as the replacement character: the audit makes no difference between the two.
-/

namespace MarkerLint

open Source Registry

namespace HostMessage

open Audit

/-- The character that is printed for a code point. -/
def printedChar : CodePoint → Char
  | .char c => c
  | .surrogate _ => '\uFFFD'

/-- The text of a message as it is printed. -/
def printedText (h : HostMessage) : String :=
  String.ofList (h.text.map printedChar)

/-- The report that the host makes of a message about a file. -/
def report (path : String) (h : HostMessage) : Report :=
  { path := path
    line := Decimal.text h.line
    column := Decimal.text h.column
    code := h.code
    message := h.printedText
    symbol := h.symbol }

/-- What the host prints: each message on a line of its own, in the layout of reports. -/
def printed (path : String) (messages : List HostMessage) : String :=
  String.join (messages.map fun h => layOut reportLayout (h.report path) ++ "\n")

/-- What the line of a message holds after the code. -/
def body (h : HostMessage) : List Char :=
  h.printedText.toList ++ ' ' :: '(' :: h.symbol.toList ++ [')']

/-- What the line of a message holds between the path and the text. -/
def head (h : HostMessage) : Head :=
  ⟨(Decimal.text h.line).toList, (Decimal.text h.column).toList, h.code.toList⟩

/-- The audit of an output has the code of the message, with the place of the message under it. -/
def Arrives (h : HostMessage) (path output : String) : Prop :=
  ∃ g ∈ resultsIn output, g.code = h.code ∧ (h.report path).location ∈ g.locations

/-- The code is a capital letter and four digits, and the symbol is made of letters, digits, low
lines and hyphens. -/
structure IsRegistered (h : HostMessage) : Prop where
  code_readable : code? h.code.toList = some (h.code.toList, [])
  symbol_ne_nil : h.symbol.toList ≠ []
  symbol_readable : ∀ c ∈ h.symbol.toList, isSymbolChar c = true

/-- The line of a message is a report where its first line end cuts it: its place is natural, and
what is left of the line ends in a symbol in brackets. -/
structure StandsAlone (h : HostMessage) : Prop where
  line_nonneg : 0 ≤ h.line
  column_nonneg : 0 ≤ h.column
  closed : ∃ message symbol, Text.firstLine h.body = message ++ ' ' :: '(' :: symbol ++ [')'] ∧
    symbol ≠ [] ∧ ∀ c ∈ symbol, isSymbolChar c = true

theorem toList_text_report (path : String) (h : HostMessage) :
    (h.report path).text.toList = path.toList ++ h.head.text ++ h.body :=
  Report.toList_text (h.report path)

theorem toList_printed (path : String) (messages : List HostMessage) :
    (printed path messages).toList =
      (messages.map fun h => path.toList ++ h.head.text ++ h.body).flatMap (· ++ ['\n']) := by
  simp [printed, layOut_reportLayout, String.toList_join, List.flatMap_map, toList_text_report]

/-- A character of a path that needs no care: a letter, a digit, a low line, a dot, a hyphen or a
slash. -/
def isPathChar (c : Char) : Bool :=
  Text.isWord c || c == '.' || c == '-' || c == '/'

section Head

variable {h : HostMessage}

theorem isLineBreak_of_mem_text {i : Int} {c : Char} (hc : c ∈ (Decimal.text i).toList) :
    Text.isLineBreak c = false := by
  rcases Decimal.mem_text hc with rfl | hdigit
  · rfl
  · exact Text.isLineBreak_eq_false_of (p := Text.isAsciiDigit) (by decide) hdigit

theorem IsRegistered.isColonFree (hh : h.IsRegistered) : h.head.IsColonFree where
  line := Decimal.notMem_text (by decide) rfl h.line
  column := Decimal.notMem_text (by decide) rfl h.column
  code := notMem_colon_code hh.code_readable

theorem IsRegistered.isReadable (hh : h.IsRegistered) (hline : 0 ≤ h.line)
    (hcolumn : 0 ≤ h.column) : h.head.IsReadable where
  line_ne_nil := (isNumber_text hline).ne_nil
  line_digits := (isNumber_text hline).digits
  column_ne_nil := (isNumber_text hcolumn).ne_nil
  column_digits := (isNumber_text hcolumn).digits
  code_readable := hh.code_readable

/-- A place before the first line or column is not read. -/
theorem head?_of_neg (hneg : h.line < 0 ∨ h.column < 0) (rest : List Char) :
    head? (h.head.text ++ rest) = none := by
  have hsign (cs : List Char) : number? ('-' :: cs) = none := number?_of_not_isDecimal rfl cs
  rcases Int.lt_or_le h.line 0 with hline | hline
  · simp [head, Head.text, Head.inside, Decimal.toList_text_of_neg hline, head?, Text.after?, hsign]
  · have hcolumn : h.column < 0 := hneg.resolve_left (Int.not_lt.mpr hline)
    have hnumber := number?_append (isNumber_text hline).ne_nil (isNumber_text hline).digits
      not_isDecimal_colon
    simp [head, Head.text, Head.inside, Decimal.toList_text_of_neg hcolumn, head?, Text.after?,
      hsign, hnumber]

theorem IsRegistered.isLineBreak_head (hh : h.IsRegistered) :
    ∀ c ∈ h.head.text, Text.isLineBreak c = false :=
  Head.isLineBreak_text (fun _ => isLineBreak_of_mem_text) (fun _ => isLineBreak_of_mem_text)
    (isLineBreak_of_mem_code hh.code_readable)

end Head

/-- What the host prints for a message is read as its first line, cut at a line end in the text, and
the lines after it. -/
theorem reportsIn_printed {path : String} (hpath : ∀ c ∈ path.toList, isPathChar c = true)
    {messages : List HostMessage} (hm : ∀ h ∈ messages, h.IsRegistered) :
    reportsIn (printed path messages) = messages.flatMap fun h =>
      (Report.read? (path.toList ++ h.head.text ++ Text.firstLine h.body)).toList ++
        (Text.laterLines h.body).filterMap Report.read? := by
  have hlines : ∀ h ∈ messages, Text.lines (path.toList ++ h.head.text ++ h.body ++ ['\n']) =
      (path.toList ++ h.head.text ++ Text.firstLine h.body) :: Text.laterLines h.body := by
    intro h hh
    have hsafe : ∀ c ∈ path.toList ++ h.head.text, Text.isLineBreak c = false := by
      intro c hc
      rcases List.mem_append.mp hc with hc | hc
      · exact Text.isLineBreak_eq_false_of (p := isPathChar) (by decide +kernel) (hpath c hc)
      · exact (hm h hh).isLineBreak_head c hc
    rw [Text.lines_printed, Text.firstLine_append hsafe, Text.laterLines_append hsafe]
  rw [reportsIn, toList_printed, Text.lines_flatMap, List.flatMap_map, List.filterMap_flatMap]
  apply List.flatMap_congr
  intro h hh
  rw [hlines h hh, List.filterMap_cons]
  cases Report.read? (path.toList ++ h.head.text ++ Text.firstLine h.body) <;> rfl

/-- The first line of a message is the report of a code at a place exactly if it stands alone and
these are its own. -/
theorem read?_firstLine_iff {path : String} (hpath : ∀ c ∈ path.toList, isPathChar c = true)
    {h : HostMessage} (hh : h.IsRegistered) {code location : String}
    (hlocation : ' ' ∉ location.toList) :
    (∃ r, Report.read? (path.toList ++ h.head.text ++ Text.firstLine h.body) = some r ∧
        r.code = code ∧ r.location = location) ↔
      h.StandsAlone ∧ h.code = code ∧ (h.report path).location = location := by
  have hcolon : ':' ∉ path.toList := fun hc => absurd (hpath _ hc) (by decide)
  by_cases hplace : 0 ≤ h.line ∧ 0 ≤ h.column
  · have hread := read?_head (.of_notMem hcolon) (hh.isReadable hplace.1 hplace.2)
      (Text.firstLine h.body)
    have hreport (t : List Char × List Char) :
        (h.head.report path.toList t.1 t.2).code = h.code ∧
          (h.head.report path.toList t.1 t.2).location = (h.report path).location := by
      simp [Head.report, head, report, Report.location]
    constructor
    · rintro ⟨r, hr, hcode, hloc⟩
      rw [hread] at hr
      obtain ⟨⟨message, symbol⟩, ht, rfl⟩ := Option.map_eq_some_iff.mp hr
      obtain ⟨hclosed, hne, hsymbol⟩ := tail?_eq_some_iff.mp ht
      exact ⟨⟨hplace.1, hplace.2, message, symbol, hclosed, hne, hsymbol⟩,
        (hreport _).1.symm.trans hcode, (hreport _).2.symm.trans hloc⟩
    · rintro ⟨⟨-, -, message, symbol, hclosed⟩, hcode, hloc⟩
      have ht := tail?_eq_some_iff.mpr hclosed
      refine ⟨_, by rw [hread, ht, Option.map_some], ?_, ?_⟩
      · exact (hreport (message, symbol)).1.trans hcode
      · exact (hreport (message, symbol)).2.trans hloc
  · constructor
    · rintro ⟨r, hr, -, rfl⟩
      have hneg : h.line < 0 ∨ h.column < 0 := by omega
      have hprefix := prefix_of_read? hcolon hh.isColonFree (head?_of_neg hneg _) hr
      have hblank : ' ' ∈ path.toList ++ h.head.text := by simp [Head.text, Head.inside]
      refine absurd ?_ hlocation
      simp [Report.location, hprefix.subset hblank]
    · rintro ⟨⟨hline, hcolumn, -⟩, -⟩
      exact absurd ⟨hline, hcolumn⟩ hplace

/-- Some line of the output stands for a message: the first line of a message with its code and
place that stands alone, or a later line of some message that reads as such a report. -/
def IsStoodFor (e : HostMessage) (path : String) (messages : List HostMessage) : Prop :=
  (∃ h ∈ messages, h.code = e.code ∧ (h.report path).location = (e.report path).location ∧
    h.StandsAlone) ∨
  ∃ h ∈ messages, ∃ l ∈ Text.laterLines h.body, ∃ r, Report.read? l = some r ∧
    r.code = e.code ∧ r.location = (e.report path).location

/-- A message arrives exactly if some line of the output stands for it. -/
theorem arrives_printed_iff {path : String} (hpath : ∀ c ∈ path.toList, isPathChar c = true)
    {messages : List HostMessage} (hm : ∀ h ∈ messages, h.IsRegistered) (e : HostMessage) :
    e.Arrives path (printed path messages) ↔ e.IsStoodFor path messages := by
  have hblank : ' ' ∉ (e.report path).location.toList := by
    have hpathblank : ' ' ∉ path.toList := fun hc => absurd (hpath _ hc) (by decide)
    have hplace (i : Int) : ' ' ∉ (Decimal.text i).toList := Decimal.notMem_text (by decide) rfl i
    simp [Report.location, report, hpathblank, hplace]
  have hfirst {h : HostMessage} (hh : h ∈ messages) :
      (∃ r, Report.read? (path.toList ++ h.head.text ++ Text.firstLine h.body) = some r ∧
          r.code = e.code ∧ r.location = (e.report path).location) ↔
        h.StandsAlone ∧ h.code = e.code ∧ (h.report path).location = (e.report path).location :=
    read?_firstLine_iff hpath (hm h hh) hblank
  rw [Arrives, resultsIn, exists_mem_group, reportsIn_printed hpath hm]
  simp only [List.mem_flatMap, List.mem_append, Option.mem_toList, List.mem_filterMap]
  constructor
  · rintro ⟨r, ⟨h, hh, hr | ⟨l, hl, hr⟩⟩, hcode, hlocation⟩
    · obtain ⟨halone, hcode, hlocation⟩ := (hfirst hh).mp ⟨r, hr, hcode, hlocation⟩
      exact .inl ⟨h, hh, hcode, hlocation, halone⟩
    · exact .inr ⟨h, hh, l, hl, r, hr, hcode, hlocation⟩
  · rintro (⟨h, hh, hcode, hlocation, halone⟩ | ⟨h, hh, l, hl, r, hr, hcode, hlocation⟩)
    · obtain ⟨r, hr, hcode, hlocation⟩ := (hfirst hh).mpr ⟨halone, hcode, hlocation⟩
      exact ⟨r, ⟨h, hh, .inl hr⟩, hcode, hlocation⟩
    · exact ⟨r, ⟨h, hh, .inr ⟨l, hl, hr⟩⟩, hcode, hlocation⟩

theorem isLineBreak_of_mem_printedText {h : HostMessage}
    (htext : ∀ p ∈ h.text, p.isIn Text.isLineBreak = false) {c : Char}
    (hc : c ∈ h.printedText.toList) : Text.isLineBreak c = false := by
  rw [printedText, String.toList_ofList] at hc
  obtain ⟨p, hp, rfl⟩ := List.mem_map.mp hc
  cases p with
  | char c => exact htext _ hp
  | surrogate => rfl

/-- A message without line ends stands alone. -/
theorem IsRegistered.standsAlone {h : HostMessage} (hh : h.IsRegistered) (hline : 0 ≤ h.line)
    (hcolumn : 0 ≤ h.column) (htext : ∀ p ∈ h.text, p.isIn Text.isLineBreak = false) :
    h.StandsAlone where
  line_nonneg := hline
  column_nonneg := hcolumn
  closed := by
    refine ⟨h.printedText.toList, h.symbol.toList, ?_, hh.symbol_ne_nil, hh.symbol_readable⟩
    apply Text.firstLine_eq_self
    intro c hc
    simp only [body, List.mem_append, List.mem_cons, List.not_mem_nil, or_false] at hc
    rcases hc with (hc | rfl | rfl | hc) | rfl
    · exact isLineBreak_of_mem_printedText htext hc
    · rfl
    · rfl
    · exact Text.isLineBreak_eq_false_of (p := isSymbolChar) (by decide +kernel)
        (hh.symbol_readable c hc)
    · rfl

/-- The codes and symbols of the packaged registry are read back. -/
theorem isRegistered_ofDiagnostic {d : Diagnostic} (hd : d.IsPackaged) :
    (ofDiagnostic d).IsRegistered := by
  have hall : ∀ e ∈ packagedEntries, ∀ m ∈ e.messages,
      code? (e.code m).toList = some ((e.code m).toList, []) ∧ m.symbol.toList ≠ [] ∧
        m.symbol.toList.all isSymbolChar = true := by
    decide +kernel
  obtain ⟨e, he, m, hm, hcode, hsymbol⟩ := hd
  obtain ⟨hreadable, hne, hchars⟩ := hall e he m hm
  exact ⟨by rw [ofDiagnostic, hcode]; exact hreadable, by rw [ofDiagnostic, hsymbol]; exact hne,
    by rw [ofDiagnostic, hsymbol]; exact List.all_eq_true.mp hchars⟩

/-- All messages of the classes of a module are shown, and the audit can read their codes and
symbols. -/
theorem exists_shown {checkers : List Checker}
    (h : List.Forall₂ (fun rule c => Checker.ofRule packaged rule = .ok c ∧ c.rule = rule)
      Rule.catalog checkers) (path : String) (ds : List Declaration) :
    ∃ shown : List HostMessage, ds.flatMap (ofClass checkers path) = shown.map some ∧
      ∀ m ∈ shown, m.IsRegistered := by
  induction ds with
  | nil => exact ⟨[], rfl, by simp⟩
  | cons d rest ih =>
      obtain ⟨diagnostics, -, hpackaged, hshown⟩ :=
        ofClass_eq_diagnostics h (List.Subset.refl _) path d
      obtain ⟨shown, hrest, hregistered⟩ := ih
      refine ⟨diagnostics.map ofDiagnostic ++ shown, ?_, ?_⟩
      · rw [List.flatMap_cons, hshown, hrest, List.map_append, List.map_map]
      · intro m hm
        rcases List.mem_append.mp hm with hm | hm
        · obtain ⟨d, hd, rfl⟩ := List.mem_map.mp hm
          exact isRegistered_ofDiagnostic (hpackaged d hd)
        · exact hregistered m hm

/-- All messages of the checkers on a module are shown. In whatever order the host prints them, one
arrives at the audit exactly if some line stands for it; a message whose text holds no line end
always does. -/
theorem findings_arrive_iff {path : String} (hpath : ∀ c ∈ path.toList, isPathChar c = true)
    (m : Module) :
    ∃ (checkers : List Checker) (shown : List HostMessage),
      Checker.ofRules packaged Rule.catalog = .ok checkers ∧
      m.classes.flatMap (ofClass checkers m.path) = shown.map some ∧
      ∀ messages : List HostMessage, messages.Perm shown → ∀ e ∈ messages,
        (e.Arrives path (printed path messages) ↔ e.IsStoodFor path messages) ∧
        (0 ≤ e.line → 0 ≤ e.column → (∀ p ∈ e.text, p.isIn Text.isLineBreak = false) →
          e.Arrives path (printed path messages)) := by
  obtain ⟨checkers, hcheckers, hforall⟩ := Checker.ofRules_forall₂ (List.Subset.refl Rule.catalog)
  obtain ⟨shown, hshown, hregistered⟩ := exists_shown hforall m.path m.classes
  refine ⟨checkers, shown, hcheckers, hshown, ?_⟩
  intro messages hperm e he
  have hm : ∀ h ∈ messages, h.IsRegistered := fun h hh => hregistered h (hperm.mem_iff.mp hh)
  have hiff := arrives_printed_iff hpath hm e
  refine ⟨hiff, fun hline hcolumn htext => hiff.mpr (.inl ⟨e, he, rfl, rfl, ?_⟩)⟩
  exact (hm e he).standsAlone hline hcolumn htext

/-- A class with one marker, at line 1 and column 1, whose name is broken over two lines. -/
def brokenName : Declaration :=
  let nowhere : Span := ⟨none, none, none, none⟩
  { name := "C"
    span := nowhere
    decorators :=
      [.call ⟨some 1, some 1, none, none⟩ (.name nowhere "BusinessInitiative") []
        [(some "name", .constant nowhere (.text "a\nb"))]] }

/-- The module of that class. -/
def brokenModule : Module :=
  { file := some "a.py"
    name := "a"
    body := [.classDef brokenName.span brokenName.name brokenName.decorators []] }

theorem findings_arrive_iff_brokenModule :
    (∀ c ∈ "a.py".toList, isPathChar c = true) ∧
    ∃ (checkers : List Checker) (shown : List HostMessage),
      Checker.ofRules packaged Rule.catalog = .ok checkers ∧
      brokenModule.classes.flatMap (ofClass checkers brokenModule.path) = shown.map some ∧
      ∀ messages : List HostMessage, messages.Perm shown → ∀ e ∈ messages,
        (e.Arrives "a.py" (printed "a.py" messages) ↔ e.IsStoodFor "a.py" messages) ∧
        (0 ≤ e.line → 0 ≤ e.column → (∀ p ∈ e.text, p.isIn Text.isLineBreak = false) →
          e.Arrives "a.py" (printed "a.py" messages)) :=
  have hpath : ∀ c ∈ "a.py".toList, isPathChar c = true := List.all_eq_true.mp (by decide)
  ⟨hpath, findings_arrive_iff hpath brokenModule⟩

/-- What the timeline rule finds in that class. -/
def brokenViolation : Violation :=
  { ruleId := "initiative-timeline-validation"
    messageId := "missingTimeline"
    location := "a.py:1:1"
    span := ⟨some 1, some 1, none, none⟩
    data := [("name", "a\nb")] }

/-- The diagnostic of that violation. -/
def brokenDiagnostic : Diagnostic :=
  { ruleId := "initiative-timeline-validation"
    code := "E5401"
    symbol := "missing-initiative-timeline"
    severity := .error
    message := "Initiative 'a\nb' is missing a timeline."
    line := 1
    column := 1
    endLine := none
    endColumn := none }

/-- The finding on the broken name is printed on two lines, neither of which is a report. -/
theorem brokenModule_finding_lost :
    ∃ (checkers : List Checker) (e : HostMessage),
      Checker.ofRules packaged Rule.catalog = .ok checkers ∧
      brokenModule.classes.flatMap (ofClass checkers brokenModule.path) = [some e] ∧
      resultsIn (printed "a.py" [e]) = [] ∧ ¬ e.Arrives "a.py" (printed "a.py" [e]) := by
  obtain ⟨checkers, hcheckers, hforall⟩ := Checker.ofRules_forall₂ (List.Subset.refl Rule.catalog)
  obtain ⟨ds, hds, -, hshown⟩ :=
    ofClass_eq_diagnostics hforall (List.Subset.refl _) "a.py" brokenName
  have hviolations : Inspection.violations Rule.catalog (markersOf "a.py" brokenName) =
      [brokenViolation] := by
    decide +kernel
  have hbuilt : (Diagnostic.ofViolations packaged [brokenViolation]).toOption =
      some [brokenDiagnostic] := by
    decide +kernel
  have hnone : resultsIn (printed "a.py" [ofDiagnostic brokenDiagnostic]) = [] := by
    decide +kernel
  rw [hviolations] at hds
  rw [hds] at hbuilt
  obtain rfl := Option.some.inj hbuilt
  refine ⟨checkers, ofDiagnostic brokenDiagnostic, hcheckers, ?_, hnone, ?_⟩
  · rw [show brokenModule.classes = [brokenName] from rfl, List.flatMap_singleton]
    exact hshown
  · rw [Arrives, hnone]
    simp

end HostMessage

end MarkerLint
