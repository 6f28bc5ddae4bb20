import Mathlib
import MarkerLint.Proofs.PrintedTable
import MarkerLint.Proofs.SummaryRows
import MarkerLint.Text.Escapes

/-!
# The accounts of the summary

When the summary of a run counts right. It does unless a directory takes the name of the total,
whose messages are counted twice, or the name of the symbol, whose count is then read off the last
symbol of each code.
-/

namespace MarkerLint

namespace Summary

/-- What the sheet of messages should show: one line for each code with the number of its messages
in all and from each directory, and the sums of all columns, that of the totals being the number of
messages. -/
structure Sheet.Accounts (s : Sheet) (messages : List Message) : Prop where
  codes_nodup : (s.lines.map (·.code)).Nodup
  mem_codes : ∀ c, c ∈ s.lines.map (·.code) ↔ c ∈ messages.map (·.code)
  mem_columns : ∀ d, d ∈ s.columns ↔ d ∈ messages.map fun m => markerDirectory m.path
  line_total : ∀ l ∈ s.lines, l.total = (ofCode l.code messages).length
  line_counts : ∀ l ∈ s.lines,
    l.counts = s.columns.map fun d => (inDirectory d (ofCode l.code messages) : Int)
  column_sums : s.sums =
    (List.range s.columns.length).map fun i => (s.lines.map fun l => l.counts.getD i 0).sum
  total_sum : s.total = (s.lines.map (·.total)).sum
  total_eq : s.total = messages.length

/-- When the summary counts right: the number of messages can be written, no directory has the name
of the total, and if one has the name of the symbol, the last symbol of each code says how many
messages of the code come from it, not counting the last one. -/
structure IsCountable (messages : List Message) : Prop where
  short : messages.length < 10 ^ digitLimit
  no_total : ∀ m ∈ messages, markerDirectory m.path ≠ totalKey
  readable : IsReadable messages
  symbols_count : (∃ m ∈ messages, markerDirectory m.path = symbolKey) →
    ∀ c m, (ofCode c messages).getLast? = some m → ∃ n, Decimal.read m.symbol = .ok n ∧
      (inDirectory symbolKey (ofCode c messages) : Int) =
        n + if markerDirectory m.path = symbolKey then 1 else 0

section Numbers

variable {messages : List Message}

theorem mem_directories {d : String} :
    d ∈ directories messages ↔ d ∈ messages.map fun m => markerDirectory m.path :=
  Text.mem_ascending

theorem inDirectory_le (d : String) (messages : List Message) :
    inDirectory d messages ≤ messages.length :=
  List.countP_le_length

theorem length_ofCode_le (c : String) (messages : List Message) :
    (ofCode c messages).length ≤ messages.length :=
  List.length_filter_le _ _

theorem inDirectory_eq_zero_iff {d : String} :
    inDirectory d messages = 0 ↔ ∀ m ∈ messages, markerDirectory m.path ≠ d := by
  simp [inDirectory, List.countP_eq_zero]

/-- The messages of all codes are all messages. -/
theorem sum_length_ofCode {codes : List String} (hn : codes.Nodup)
    (hcodes : ∀ m ∈ messages, m.code ∈ codes) :
    (codes.map fun c => (ofCode c messages).length).sum = messages.length := by
  have hcount (x : String) : (codes.map fun c => if x = c then 1 else 0).sum = codes.count x := by
    clear hn hcodes
    induction codes with
    | nil => rfl
    | cons c rest ih =>
        rw [List.map_cons, List.sum_cons, ih, List.count_cons, Nat.add_comm]
        simp only [beq_iff_eq, eq_comm (a := x)]
  induction messages with
  | nil => simp [ofCode]
  | cons m rest ih =>
      have hcons (c : String) : (ofCode c (m :: rest)).length =
          (if m.code = c then 1 else 0) + (ofCode c rest).length := by
        by_cases hc : m.code = c <;> simp [ofCode, hc, Nat.add_comm]
      simp only [hcons, List.sum_map_add]
      rw [hcount, List.count_eq_one_of_mem hn (hcodes m List.mem_cons_self),
        ih fun m' hm' => hcodes m' (List.mem_cons_of_mem _ hm'), List.length_cons, Nat.add_comm]

/-- The messages of all codes from a directory are all messages from it. -/
theorem sum_inDirectory_ofCode {codes : List String} (hn : codes.Nodup)
    (hcodes : ∀ m ∈ messages, m.code ∈ codes) (d : String) :
    (codes.map fun c => inDirectory d (ofCode c messages)).sum = inDirectory d messages := by
  have hfilter (c : String) : inDirectory d (ofCode c messages) =
      (ofCode c (messages.filter fun m => markerDirectory m.path = d)).length := by
    simp only [inDirectory, ofCode, List.filter_filter, List.countP_eq_length_filter]
    congr 2
    funext m
    rw [Bool.and_comm]
  simp only [hfilter]
  rw [sum_length_ofCode hn fun m hm => hcodes m (List.mem_of_mem_filter hm), inDirectory,
    List.countP_eq_length_filter]

end Numbers

section Sums

theorem sum_codes (f : String → Nat) (lines : List Line) :
    (lines.map fun l => (f l.code : Int)).sum = ((lines.map (·.code)).map f).sum := by
  induction lines with
  | nil => rfl
  | cons l rest ih => simp [ih]

theorem grandTotal_eq (lines : List Line) : grandTotal lines = (lines.map (·.total)).sum := by
  have hfold (total : Int) :
      lines.foldl (fun total line => total + line.total) total =
        total + (lines.map (·.total)).sum := by
    induction lines generalizing total with
    | nil => simp
    | cons l rest ih => rw [List.foldl_cons, ih, List.map_cons, List.sum_cons, Int.add_assoc]
  rw [grandTotal, hfold, Int.zero_add]

theorem columnSums_eq {columns : List String} {lines : List Line}
    (h : ∀ l ∈ lines, l.counts.length = columns.length) :
    columnSums columns lines =
      (List.range columns.length).map fun i => (lines.map fun l => l.counts.getD i 0).sum := by
  have hfold (sums : List Int) (hsums : sums.length = columns.length) :
      lines.foldl (fun sums line => List.zipWith (· + ·) sums line.counts) sums =
        (List.range columns.length).map fun i =>
          sums.getD i 0 + (lines.map fun l => l.counts.getD i 0).sum := by
    induction lines generalizing sums with
    | nil =>
        apply List.ext_getElem
        · simp [hsums]
        · intro i hi _
          have hi : i < sums.length := hi
          simp [List.getElem?_eq_getElem hi]
    | cons l rest ih =>
        have hl := h l List.mem_cons_self
        rw [List.foldl_cons, ih (fun l' hl' => h l' (List.mem_cons_of_mem _ hl')) _
          (by simp [hsums, hl])]
        apply List.map_congr_left
        intro i hi
        have hi : i < columns.length := List.mem_range.mp hi
        have hsum : (List.zipWith (· + ·) sums l.counts).getD i 0 =
            sums.getD i 0 + l.counts.getD i 0 := by
          simp [List.getElem?_zipWith, List.getElem?_eq_getElem (hsums ▸ hi),
            List.getElem?_eq_getElem (hl ▸ hi)]
        rw [hsum, List.map_cons, List.sum_cons, Int.add_assoc]
  rw [columnSums, hfold _ (List.length_map _)]
  apply List.map_congr_left
  intro i hi
  simp [List.mem_range.mp hi]

end Sums

section Answers

/-- A line is made of the symbol, the total and the counts of a row. -/
theorem lineOf_eq_ok_iff {columns : List String} {code : String} {row : Row} {l : Line} :
    lineOf columns code row = .ok l ↔
      l.code = code ∧ cellText "" (row.get? symbolKey) = .ok l.symbol ∧
        countOf (row.get? totalKey) = .ok l.total ∧
        List.Forall₂ (fun d n => countOf (row.get? d) = .ok n) columns l.counts := by
  rw [← mapM_eq_ok_iff]
  constructor
  · intro h
    obtain ⟨symbol, hsymbol, h⟩ := bind_eq_ok_iff.mp h
    obtain ⟨total, htotal, h⟩ := bind_eq_ok_iff.mp h
    obtain ⟨counts, hcounts, h⟩ := bind_eq_ok_iff.mp h
    cases h
    exact ⟨rfl, hsymbol, htotal, hcounts⟩
  · rintro ⟨rfl, hsymbol, htotal, hcounts⟩
    rw [lineOf, hsymbol, htotal, countsOf, hcounts]
    rfl

/-- A sheet is made of the rows of its messages. -/
theorem sheet_eq_ok_iff {messages : List Message} {s : Sheet} :
    sheet messages = .ok s ↔
      ∃ rows, addMessages [] messages = .ok rows ∧ s.columns = directories messages ∧
        widenAll s.columns ((titles s.columns).map String.length) rows = .ok s.widths ∧
        List.Forall₂ (fun e l => lineOf s.columns e.1 e.2 = .ok l) (rows.mergeSort precedes) s.lines ∧
        s.total = grandTotal s.lines ∧ s.sums = columnSums s.columns s.lines := by
  simp only [← mapM_eq_ok_iff]
  constructor
  · intro h
    obtain ⟨rows, hrows, h⟩ := bind_eq_ok_iff.mp h
    obtain ⟨widths, hwidths, h⟩ := bind_eq_ok_iff.mp h
    obtain ⟨lines, hlines, h⟩ := bind_eq_ok_iff.mp h
    cases h
    exact ⟨rows, hrows, rfl, hwidths, hlines, rfl, rfl⟩
  · rintro ⟨rows, hrows, hcolumns, hwidths, hlines, htotal, hsums⟩
    obtain ⟨columns, widths, lines, total, sums⟩ := s
    simp only at hcolumns hwidths hlines htotal hsums
    subst hcolumns htotal hsums
    simp only [sheet, hrows, ok_bind, hwidths, linesOf, hlines]

/-- The columns keep their number when they are widened. -/
theorem length_widenAll {columns : List String} {rows : Table Row} {widths widths' : List Nat}
    (h : widenAll columns widths rows = .ok widths') (hlength : widths.length = columns.length + 3) :
    widths'.length = columns.length + 3 := by
  induction rows generalizing widths with
  | nil =>
      cases h
      exact hlength
  | cons e rows ih =>
      obtain ⟨widened, hwiden, h⟩ := bind_eq_ok_iff.mp h
      obtain ⟨symbol, -, hwiden⟩ := bind_eq_ok_iff.mp hwiden
      obtain ⟨total, -, hwiden⟩ := bind_eq_ok_iff.mp hwiden
      obtain ⟨counts, hcounts, hwiden⟩ := bind_eq_ok_iff.mp hwiden
      cases hwiden
      refine ih h ?_
      have hcells := (mapM_eq_ok_iff.mp hcounts).length_eq
      simp [hlength, ← hcells]

/-- The sheet of messages has as many counts in each line, as many sums and as many widths as it has
columns. -/
theorem isRectangular_of_sheet {messages : List Message} {s : Sheet} (h : sheet messages = .ok s) :
    s.IsRectangular := by
  obtain ⟨rows, -, -, hwidths, hlines, -, hsums⟩ := sheet_eq_ok_iff.mp h
  have hcounts : ∀ l ∈ s.lines, l.counts.length = s.columns.length := by
    intro l hl
    obtain ⟨e, -, hlineOf⟩ := exists_of_mem_forall₂ hlines hl
    exact (lineOf_eq_ok_iff.mp hlineOf).2.2.2.length_eq.symm
  refine ⟨length_widenAll hwidths ?_, hcounts, ?_⟩
  · rw [List.length_map, titles, List.length_append, Nat.add_comm]
    rfl
  · rw [hsums, columnSums_eq hcounts, List.length_map, List.length_range]

/-- A summary of messages that is printed shows their sheet. -/
theorem exists_isPrintedAs_of_render {messages : List Message} (hne : messages ≠ []) {text : String}
    (h : render messages = .ok text) :
    ∃ s printed, sheet messages = .ok s ∧ s.texts = .ok printed ∧ s.IsPrintedAs printed ∧
      text = String.join (printed.map (· ++ "\n")) := by
  have hempty : messages.isEmpty = false := by simpa using hne
  simp only [render, hempty] at h
  obtain ⟨printed, htexts, htext⟩ := bind_eq_ok_iff.mp h
  obtain ⟨s, hs, htexts⟩ := bind_eq_ok_iff.mp htexts
  exact ⟨s, printed, hs, htexts, (isRectangular_of_sheet hs).isPrintedAs htexts,
    (Except.ok.inj htext).symm⟩

/-- A cell that can be counted can be written, if the count can. -/
theorem exists_cellText {cell : Option Cell} {n : Int} (h : countOf cell = .ok n)
    (hn : n.natAbs < 10 ^ digitLimit) (fallback : String) :
    ∃ text, cellText fallback cell = .ok text := by
  rcases cell with _ | s | k
  · exact ⟨fallback, rfl⟩
  · exact ⟨s, rfl⟩
  · cases h
    exact ⟨_, Decimal.text?_eq_ok_iff.mpr ⟨hn, rfl⟩⟩

theorem countOf_symbolCell {m : Message} {n : Int} (h : Decimal.read m.symbol = .ok n) :
    countOf (some (symbolCell m)) =
      .ok (n + if markerDirectory m.path = symbolKey then 1 else 0) := by
  by_cases hs : markerDirectory m.path = symbolKey
  · simp only [symbolCell, hs, if_true, h, countOf]
  · simp only [symbolCell, if_neg hs, countOf, h, Int.add_zero]

end Answers

section Counting

variable {messages : List Message} {rows : Table Row} {c : String} {row : Row}

/-- The code of a row has a last message, which decides on the cell of the symbol. -/
theorem IsTableOf.exists_last (ht : IsTableOf messages rows) (hrow : rows.get? c = some row) :
    ∃ m ∈ messages, (ofCode c messages).getLast? = some m ∧
      row.get? symbolKey = some (symbolCell m) := by
  have hkey : c ∈ messages.map (·.code) :=
    (ht.mem_keys c).mp (List.mem_map.mpr ⟨_, Table.mem_of_get?_eq_some hrow, rfl⟩)
  obtain ⟨m, hm, hcode⟩ := List.mem_map.mp hkey
  have hmem : m ∈ ofCode c messages := List.mem_filter.mpr ⟨hm, by simpa using hcode⟩
  cases hlast : (ofCode c messages).getLast? with
  | none => exact absurd hmem (by simp [List.getLast?_eq_none_iff.mp hlast])
  | some last =>
      refine ⟨last, List.mem_of_mem_filter (List.mem_of_getLast? hlast), rfl, ?_⟩
      rw [(ht.row c row hrow).symbol, hlast, Option.map_some]

/-- In a run that counts right, the cells of a row are the numbers of messages. -/
theorem IsCountable.countOf_column (h : IsCountable messages) (ht : IsTableOf messages rows)
    (hrow : rows.get? c = some row) {d : String} (hd : d ∈ directories messages) :
    countOf (row.get? d) = .ok (inDirectory d (ofCode c messages)) := by
  obtain ⟨m, hm, rfl⟩ := List.mem_map.mp (mem_directories.mp hd)
  by_cases hs : markerDirectory m.path = symbolKey
  · obtain ⟨last, -, hlast, hcell⟩ := ht.exists_last hrow
    obtain ⟨n, hn, hcount⟩ := h.symbols_count ⟨m, hm, hs⟩ c last hlast
    rw [hs, hcell, countOf_symbolCell hn, hcount]
  · exact (ht.row c row hrow).count _ (h.no_total m hm) hs

/-- Numbers of messages can be written if the number of all messages can. -/
theorem IsCountable.natAbs_lt (h : IsCountable messages) {n : Nat} (hn : n ≤ messages.length) :
    (n : Int).natAbs < 10 ^ digitLimit :=
  Nat.lt_of_le_of_lt hn h.short

theorem inDirectory_ofCode_le (d c : String) (messages : List Message) :
    inDirectory d (ofCode c messages) ≤ messages.length :=
  Nat.le_trans (inDirectory_le d _) (length_ofCode_le c messages)

theorem IsCountable.exists_symbolText (h : IsCountable messages) (ht : IsTableOf messages rows)
    (hrow : rows.get? c = some row) : ∃ text, cellText "" (row.get? symbolKey) = .ok text := by
  obtain ⟨last, hmem, hlast, hcell⟩ := ht.exists_last hrow
  by_cases hs : markerDirectory last.path = symbolKey
  · have hcolumn := h.countOf_column ht hrow
      (mem_directories.mpr (List.mem_map.mpr ⟨last, hmem, hs⟩))
    exact exists_cellText hcolumn (h.natAbs_lt (inDirectory_ofCode_le _ _ _)) ""
  · exact ⟨last.symbol, by rw [hcell, symbolCell, if_neg hs]; rfl⟩

end Counting

/-- The sum of a column is the number of messages from its directory. -/
theorem Sheet.Accounts.column_sum {s : Sheet} {messages : List Message} (h : s.Accounts messages)
    {i : Nat} (hi : i < s.columns.length) :
    (s.lines.map fun l => l.counts.getD i 0).sum = inDirectory s.columns[i] messages := by
  have hcolumn : (s.lines.map fun l => l.counts.getD i 0) =
      s.lines.map fun l => (inDirectory s.columns[i] (ofCode l.code messages) : Int) := by
    apply List.map_congr_left
    intro l hl
    simp [h.line_counts l hl, hi]
  have hcodes : ∀ m ∈ messages, m.code ∈ s.lines.map (·.code) := fun m hm =>
    (h.mem_codes m.code).mpr (List.mem_map.mpr ⟨m, hm, rfl⟩)
  rw [hcolumn, sum_codes fun c => inDirectory s.columns[i] (ofCode c messages),
    sum_inDirectory_ofCode h.codes_nodup hcodes]

/-- A sheet that accounts for few enough messages can be printed. -/
theorem Sheet.Accounts.exists_texts {s : Sheet} {messages : List Message} (h : s.Accounts messages)
    (hshort : messages.length < 10 ^ digitLimit) :
    ∃ lines, s.texts = .ok lines ∧ lines.getLast? = some (closingLine messages.length) := by
  have htext {n : Nat} (hn : n ≤ messages.length) : Decimal.text? n = .ok (Decimal.text n) :=
    Decimal.text?_eq_ok_iff.mpr ⟨Nat.lt_of_le_of_lt hn hshort, rfl⟩
  have hcounts : ∀ l ∈ s.lines, ∃ texts, countTexts l.counts = .ok texts := by
    intro l hl
    apply exists_mapM_eq_ok
    intro n hn
    rw [h.line_counts l hl] at hn
    obtain ⟨d, -, rfl⟩ := List.mem_map.mp hn
    exact ⟨_, htext (inDirectory_ofCode_le d l.code messages)⟩
  have hsums : ∃ texts, countTexts s.sums = .ok texts := by
    apply exists_mapM_eq_ok
    intro n hn
    rw [h.column_sums] at hn
    obtain ⟨i, hi, rfl⟩ := List.mem_map.mp hn
    rw [h.column_sum (List.mem_range.mp hi)]
    exact ⟨_, htext (inDirectory_le _ messages)⟩
  have hlines : ∃ body, lineTexts s.widths s.lines = .ok body := by
    apply exists_mapM_eq_ok
    intro l hl
    obtain ⟨texts, htexts⟩ := hcounts l hl
    rw [Line.text, h.line_total l hl, htext (length_ofCode_le l.code messages), ok_bind, htexts]
    exact ⟨_, rfl⟩
  obtain ⟨body, hbody⟩ := hlines
  obtain ⟨texts, htexts⟩ := hsums
  have htotal := htext (Nat.le_refl messages.length)
  rw [← h.total_eq] at htotal
  refine ⟨_, by simp only [Sheet.texts, hbody, sumsText, htotal, htexts, ok_bind]; rfl, ?_⟩
  rw [← h.total_eq]
  simp [closingLine, List.getLast?_cons, List.getLast?_append]

end Summary

end MarkerLint
