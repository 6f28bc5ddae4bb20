import Mathlib.Data.List.Sort
import MarkerLint.Proofs.SummaryAccounts

/-!
# The sheet of a summary

What the sheet shows where no directory has the name of the symbol. Every line is then a function of
the messages with its code: the number of them, from each directory too, and the symbol of the last
one. Messages from a directory with the name of the total count twice. The sheet is made of these
lines in order of rank, and it can be printed exactly if the sum of all totals can be written.
-/

namespace MarkerLint.Summary

/-- No message comes from a directory with the name of the symbol. -/
def IsUnnamed (messages : List Message) : Prop :=
  ∀ m ∈ messages, markerDirectory m.path ≠ symbolKey

theorem IsUnnamed.isReadable {messages : List Message} (h : IsUnnamed messages) :
    IsReadable messages :=
  fun m hm hs => absurd hs (h m hm)

section Cells

/-- Under every key but that of the symbol the row holds counts. -/
def HoldsCounts (row : Row) : Prop :=
  ∀ d, d ≠ symbolKey → ∀ cell, row.get? d = some cell → ∃ n, cell = .count n

variable {row row' : Row} {m : Message}

theorem HoldsCounts.insert_count (h : HoldsCounts row) (key : String) (n : Int) :
    HoldsCounts (row.insert key (.count n)) := by
  intro d hd cell hcell
  by_cases hkey : d = key
  · rw [hkey, Table.get?_insert_self] at hcell
    exact ⟨n, (Option.some.inj hcell).symm⟩
  · rw [Table.get?_insert_of_ne hkey] at hcell
    exact h d hd cell hcell

theorem HoldsCounts.insert_symbol (h : HoldsCounts row) (s : String) :
    HoldsCounts (row.insert symbolKey (.symbol s)) := by
  intro d hd cell hcell
  rw [Table.get?_insert_of_ne hd] at hcell
  exact h d hd cell hcell

theorem HoldsCounts.increment {key : String} (h : HoldsCounts row)
    (hrow : increment key row = .ok row') : HoldsCounts row' := by
  obtain ⟨n, -, hrow⟩ := bind_eq_ok_iff.mp hrow
  cases hrow
  exact h.insert_count key (n + 1)

/-- A message adds counts to the row of its code, and a symbol under the key of the symbol only. -/
theorem HoldsCounts.addToRow (h : HoldsCounts row) (hrow : addToRow row m = .ok row') :
    HoldsCounts row' := by
  obtain ⟨row₁, hfirst, hsecond⟩ := bind_eq_ok_iff.mp hrow
  exact ((h.insert_symbol m.symbol).increment hfirst).increment hsecond

theorem holdsCounts_nil : HoldsCounts [] := by
  intro d _ cell hcell
  cases hcell

/-- A cell that is a count or missing is written as it is counted. -/
theorem HoldsCounts.cellText_eq {d : String} {n : Int} (h : HoldsCounts row) (hd : d ≠ symbolKey)
    (hn : countOf (row.get? d) = .ok n) : cellText "0" (row.get? d) = Decimal.text? n := by
  cases hcell : row.get? d with
  | none =>
      rw [hcell] at hn
      cases hn
      decide +kernel
  | some cell =>
      obtain ⟨k, rfl⟩ := h d hd cell hcell
      rw [hcell] at hn
      cases hn
      rfl

theorem HoldsCounts.totalOf_eq {n : Int} (h : HoldsCounts row)
    (hn : countOf (row.get? totalKey) = .ok n) : totalOf row = n := by
  rw [totalOf]
  cases hcell : row.get? totalKey with
  | none =>
      rw [hcell] at hn
      exact Except.ok.inj hn
  | some cell =>
      obtain ⟨k, rfl⟩ := h totalKey symbolKey_ne_totalKey.symm cell hcell
      rw [hcell] at hn
      exact Except.ok.inj hn

/-- All rows hold counts over a whole run. -/
theorem holdsCounts_of_addMessages {rows rows' : Table Row} {messages : List Message}
    (h : ∀ c row, rows.get? c = some row → HoldsCounts row)
    (hrows : addMessages rows messages = .ok rows') :
    ∀ c row, rows'.get? c = some row → HoldsCounts row := by
  induction messages generalizing rows with
  | nil =>
      cases hrows
      exact h
  | cons m rest ih =>
      obtain ⟨rows₁, hfirst, hothers⟩ := bind_eq_ok_iff.mp hrows
      obtain ⟨row₁, hrow, hinsert⟩ := bind_eq_ok_iff.mp hfirst
      cases hinsert
      refine ih ?_ hothers
      intro c row hc
      by_cases hcode : c = m.code
      · rw [hcode, Table.get?_insert_self] at hc
        cases hc
        refine HoldsCounts.addToRow ?_ hrow
        cases hold : rows.get? m.code with
        | none => exact holdsCounts_nil
        | some old => exact h _ _ hold
      · rw [Table.get?_insert_of_ne hcode] at hc
        exact h c row hc

end Cells

section Lines

/-- The total in the line of a code. -/
def shownTotal (c : String) (messages : List Message) : Nat :=
  (ofCode c messages).length + inDirectory totalKey (ofCode c messages)

/-- The count in the line of a code in the column of a directory. -/
def shownCount (c : String) (messages : List Message) (d : String) : Nat :=
  if d = totalKey then shownTotal c messages else inDirectory d (ofCode c messages)

/-- The symbol in the line of a code: that of the last message. -/
def shownSymbol (c : String) (messages : List Message) : String :=
  ((ofCode c messages).getLast?.map (·.symbol)).getD ""

/-- The line of a code. -/
def shownLine (messages : List Message) (c : String) : Line where
  code := c
  symbol := shownSymbol c messages
  total := shownTotal c messages
  counts := (directories messages).map fun d => shownCount c messages d

variable {messages : List Message} {rows : Table Row} {c : String} {row : Row}

theorem ne_symbolKey_of_mem_directories (h : IsUnnamed messages) {d : String}
    (hd : d ∈ directories messages) : d ≠ symbolKey := by
  obtain ⟨m, hm, rfl⟩ := List.mem_map.mp (mem_directories.mp hd)
  exact h m hm

/-- The cell of a directory holds the count that is shown. -/
theorem IsTableOf.countOf_shown (ht : IsTableOf messages rows) (hrow : rows.get? c = some row)
    {d : String} (hd : d ≠ symbolKey) :
    countOf (row.get? d) = .ok (shownCount c messages d) := by
  rw [shownCount]
  split
  · next htotal => rw [htotal, (ht.row c row hrow).total, shownTotal]
  · next htotal => rw [(ht.row c row hrow).count d htotal hd]

/-- The cell of the symbol holds the symbol that is shown. -/
theorem IsTableOf.symbol_shown (h : IsUnnamed messages) (ht : IsTableOf messages rows)
    (hrow : rows.get? c = some row) :
    row.get? symbolKey = some (.symbol (shownSymbol c messages)) := by
  obtain ⟨last, hmem, hlast, hcell⟩ := ht.exists_last hrow
  rw [hcell, symbolCell, if_neg (h last hmem), shownSymbol, hlast]
  rfl

/-- The row of a code gives the line that is shown. -/
theorem IsTableOf.lineOf_eq (h : IsUnnamed messages) (ht : IsTableOf messages rows)
    (hrow : rows.get? c = some row) :
    lineOf (directories messages) c row = .ok (shownLine messages c) := by
  refine lineOf_eq_ok_iff.mpr ⟨rfl, ?_, ?_, ?_⟩
  · rw [ht.symbol_shown h hrow]
    rfl
  · rw [ht.countOf_shown hrow symbolKey_ne_totalKey.symm, shownCount, if_pos rfl]
    rfl
  · rw [shownLine, List.forall₂_map_right_iff, List.forall₂_same]
    exact fun d hd => ht.countOf_shown hrow (ne_symbolKey_of_mem_directories h hd)

/-- The texts of a line, one for each column. -/
def Line.texts (l : Line) : Except Fault (List String) := do
  let total ← Decimal.text? l.total
  let counts ← countTexts l.counts
  .ok (l.code :: l.symbol :: total :: counts)

/-- The columns take at least the widths of the texts of a line. -/
def Line.widen (widths : List Nat) (l : Line) : Except Fault (List Nat) :=
  (fun texts => List.zipWith max widths (texts.map String.length)) <$> l.texts

/-- A row takes the widths of its line. -/
theorem IsTableOf.widen_eq (h : IsUnnamed messages) (ht : IsTableOf messages rows)
    (hrow : rows.get? c = some row) (hrowCounts : HoldsCounts row) (widths : List Nat) :
    widen (directories messages) c row widths = (shownLine messages c).widen widths := by
  have htotal : cellText "0" (row.get? totalKey) = Decimal.text? (shownLine messages c).total := by
    have hcount := ht.countOf_shown hrow symbolKey_ne_totalKey.symm
    rw [shownCount, if_pos rfl] at hcount
    exact hrowCounts.cellText_eq symbolKey_ne_totalKey.symm hcount
  have hcounts : cellTexts row (directories messages) = countTexts (shownLine messages c).counts := by
    rw [cellTexts, countTexts, shownLine, List.mapM_map]
    apply mapM_congr
    intro d hd
    have hname := ne_symbolKey_of_mem_directories h hd
    exact hrowCounts.cellText_eq hname (ht.countOf_shown hrow hname)
  rw [widen, ht.symbol_shown h hrow, htotal, hcounts, Line.widen, Line.texts]
  cases Decimal.text? (shownLine messages c).total with
  | error e => rfl
  | ok total => cases countTexts (shownLine messages c).counts <;> rfl

end Lines

section Widths

/-- Only a number beyond the digit limit keeps a line from being written. -/
theorem Line.eq_tooManyDigits_of_texts {l : Line} {fault : Fault} (h : l.texts = .error fault) :
    fault = .tooManyDigits := by
  have hnumber {n : Int} {fault : Fault} (h : Decimal.text? n = .error fault) :
      fault = .tooManyDigits := by
    rw [Decimal.text?] at h
    split at h
    · exact (Except.error.inj h).symm
    · cases h
  rw [Line.texts] at h
  cases htotal : Decimal.text? l.total with
  | error e =>
      rw [htotal] at h
      cases h
      exact hnumber htotal
  | ok total =>
      cases hcounts : countTexts l.counts with
      | error e =>
          rw [htotal, hcounts] at h
          cases h
          obtain ⟨n, -, hn⟩ := exists_of_mapM_eq_error hcounts
          exact hnumber hn
      | ok counts =>
          rw [htotal, hcounts] at h
          cases h

theorem zipWith_max_right_comm (widths as bs : List Nat) :
    List.zipWith max (List.zipWith max widths as) bs =
      List.zipWith max (List.zipWith max widths bs) as := by
  induction widths generalizing as bs with
  | nil => rfl
  | cons w widths ih =>
      cases as with
      | nil => cases bs <;> rfl
      | cons a as =>
          cases bs with
          | nil => rfl
          | cons b bs => simp only [List.zipWith_cons_cons, ih as bs, max_right_comm w a b]

/-- Two lines widen the columns in either order. -/
theorem Line.widen_comm (widths : List Nat) (a b : Line) :
    (Line.widen widths a >>= fun widths => Line.widen widths b) =
      (Line.widen widths b >>= fun widths => Line.widen widths a) := by
  simp only [Line.widen]
  cases ha : a.texts with
  | error e =>
      cases hb : b.texts with
      | error e' =>
          rw [Line.eq_tooManyDigits_of_texts ha, Line.eq_tooManyDigits_of_texts hb]
      | ok bs => rfl
  | ok as =>
      cases hb : b.texts with
      | error e' => rfl
      | ok bs => exact congrArg Except.ok (zipWith_max_right_comm _ _ _)

end Widths

section Ranking

/-- What a line is ranked by: the greatest total first, then the smallest code. -/
def Line.rank (l : Line) : ℤᵒᵈ ×ₗ String :=
  toLex (OrderDual.toDual l.total, l.code)

/-- The first line stands above the second: its total is greater, or as great and its code smaller.
-/
def Line.Outranks (a b : Line) : Prop :=
  b.total < a.total ∨ (a.total = b.total ∧ a.code < b.code)

theorem Line.outranks_iff {a b : Line} : a.Outranks b ↔ a.rank < b.rank := by
  simp [Line.Outranks, Line.rank, Prod.Lex.toLex_lt_toLex]

instance : Std.Irrefl Line.Outranks where
  irrefl a h := lt_irrefl a.rank (Line.outranks_iff.mp h)

instance : Std.Antisymm Line.Outranks where
  antisymm _ _ hab hba :=
    absurd (Line.outranks_iff.mp hba) (lt_asymm (Line.outranks_iff.mp hab))

/-- What a row is ranked by. -/
def rowRank (e : String × Row) : ℤᵒᵈ ×ₗ String :=
  toLex (OrderDual.toDual (totalOf e.2), e.1)

theorem precedes_iff {a b : String × Row} : precedes a b = true ↔ rowRank a ≤ rowRank b := by
  rw [rowRank, rowRank, Prod.Lex.toLex_le_toLex]
  simp [precedes]

theorem pairwise_mergeSort_precedes (rows : Table Row) :
    (rows.mergeSort precedes).Pairwise fun a b => rowRank a ≤ rowRank b := by
  have htrans (a b c : String × Row) (hab : precedes a b = true) (hbc : precedes b c = true) :
      precedes a c = true :=
    precedes_iff.mpr ((precedes_iff.mp hab).trans (precedes_iff.mp hbc))
  have htotal (a b : String × Row) : (precedes a b || precedes b a) = true := by
    rw [Bool.or_eq_true, precedes_iff, precedes_iff]
    exact le_total _ _
  have hsorted := List.pairwise_mergeSort htrans htotal rows
  exact hsorted.imp precedes_iff.mp

/-- The lines are those of the codes of the messages, in order of rank. -/
structure IsRanking (messages : List Message) (lines : List Line) : Prop where
  ranked : lines.Pairwise Line.Outranks
  mem_lines : ∀ l, l ∈ lines ↔ ∃ c ∈ messages.map (·.code), l = shownLine messages c

/-- The sheet of lines. -/
def sheetOf (columns : List String) (lines : List Line) : Except Fault Sheet :=
  (fun widths =>
    { columns := columns
      widths := widths
      lines := lines
      total := grandTotal lines
      sums := columnSums columns lines }) <$>
    lines.foldlM Line.widen ((titles columns).map String.length)

variable {messages : List Message}

/-- The rows of messages, put in order, give the lines of their codes in order of rank. -/
theorem IsTableOf.isRanking {rows : Table Row} (ht : IsTableOf messages rows)
    (hcounts : ∀ c row, rows.get? c = some row → HoldsCounts row) :
    IsRanking messages ((rows.mergeSort precedes).map fun e => shownLine messages e.1) where
  ranked := by
    have hperm := List.mergeSort_perm rows precedes
    have hnodup : ((rows.mergeSort precedes).map (·.1)).Nodup := by
      rw [(hperm.map _).nodup_iff]
      exact ht.keys_nodup
    have hrank : ∀ e ∈ rows.mergeSort precedes, (shownLine messages e.1).rank = rowRank e := by
      intro e he
      have hrow := Table.get?_eq_some_of_mem ht.keys_nodup (hperm.mem_iff.mp he)
      have htotal := ht.countOf_shown hrow symbolKey_ne_totalKey.symm
      rw [shownCount, if_pos rfl] at htotal
      rw [Line.rank, rowRank, (hcounts e.1 e.2 hrow).totalOf_eq htotal]
      rfl
    rw [List.pairwise_map]
    apply ((pairwise_mergeSort_precedes rows).and (List.pairwise_map.mp hnodup)).imp_of_mem
    rintro a b ha hb ⟨hle, hne⟩
    rw [Line.outranks_iff, hrank a ha, hrank b hb]
    refine lt_of_le_of_ne hle fun heq => hne ?_
    exact congrArg (fun key : ℤᵒᵈ ×ₗ String => (ofLex key).2) heq
  mem_lines := by
    intro l
    have hperm := List.mergeSort_perm rows precedes
    rw [((hperm.map fun e => shownLine messages e.1).mem_iff), List.mem_map]
    constructor
    · rintro ⟨e, he, rfl⟩
      exact ⟨e.1, (ht.mem_keys e.1).mp (List.mem_map_of_mem he), rfl⟩
    · rintro ⟨c, hc, rfl⟩
      obtain ⟨e, he, rfl⟩ := List.mem_map.mp ((ht.mem_keys c).mpr hc)
      exact ⟨e, he, rfl⟩

/-- The sheet of messages is that of their lines in order of rank. -/
theorem IsUnnamed.exists_sheet_eq (h : IsUnnamed messages) :
    ∃ lines, IsRanking messages lines ∧ sheet messages = sheetOf (directories messages) lines := by
  obtain ⟨rows, hrows, ht⟩ := isTableOf_nil.addMessages h.isReadable
  rw [List.nil_append] at ht
  have hcounts := holdsCounts_of_addMessages (fun _ _ hrow => by cases hrow) hrows
  have hperm := List.mergeSort_perm rows precedes
  have hget : ∀ e ∈ rows, rows.get? e.1 = some e.2 := fun e he =>
    Table.get?_eq_some_of_mem ht.keys_nodup he
  refine ⟨_, ht.isRanking hcounts, ?_⟩
  have hlines : linesOf (directories messages) (rows.mergeSort precedes) =
      .ok ((rows.mergeSort precedes).map fun e => shownLine messages e.1) := by
    rw [linesOf, mapM_eq_ok_iff, List.forall₂_map_right_iff, List.forall₂_same]
    exact fun e he => ht.lineOf_eq h (hget e (hperm.mem_iff.mp he))
  have hwidths (start : List Nat) : widenAll (directories messages) start rows =
      ((rows.mergeSort precedes).map fun e => shownLine messages e.1).foldlM Line.widen start := by
    calc widenAll (directories messages) start rows
      _ = rows.foldlM (fun widths e => Line.widen widths (shownLine messages e.1)) start :=
          foldlM_congr (fun e he widths =>
            ht.widen_eq h (hget e he) (hcounts e.1 e.2 (hget e he)) widths) start
      _ = (rows.map fun e => shownLine messages e.1).foldlM Line.widen start := by
          rw [List.foldlM_map]
      _ = _ := foldlM_eq_of_perm (hperm.symm.map _) Line.widen_comm start
  rw [sheet, hrows, ok_bind]
  simp only [hwidths, hlines, sheetOf]
  rfl

end Ranking

section Sums

/-- The sum of all totals that are shown. -/
def shownSum (messages : List Message) : Nat :=
  messages.length + inDirectory totalKey messages

/-- The sum of the counts that are shown in the column of a directory. -/
def shownColumnSum (messages : List Message) (d : String) : Nat :=
  if d = totalKey then shownSum messages else inDirectory d messages

variable {messages : List Message} {lines : List Line}

theorem shownColumnSum_le (messages : List Message) (d : String) :
    shownColumnSum messages d ≤ shownSum messages := by
  rw [shownColumnSum]
  split
  · exact Nat.le_refl _
  · exact (inDirectory_le d messages).trans (Nat.le_add_right _ _)

theorem sum_shownTotal {codes : List String} (hn : codes.Nodup)
    (hcodes : ∀ m ∈ messages, m.code ∈ codes) :
    (codes.map fun c => shownTotal c messages).sum = shownSum messages := by
  simp only [shownTotal, List.sum_map_add]
  rw [sum_length_ofCode hn hcodes, sum_inDirectory_ofCode hn hcodes, shownSum]

theorem sum_shownCount {codes : List String} (hn : codes.Nodup)
    (hcodes : ∀ m ∈ messages, m.code ∈ codes) (d : String) :
    (codes.map fun c => shownCount c messages d).sum = shownColumnSum messages d := by
  by_cases hd : d = totalKey
  · simp only [shownCount, shownColumnSum, if_pos hd]
    exact sum_shownTotal hn hcodes
  · simp only [shownCount, shownColumnSum, if_neg hd]
    exact sum_inDirectory_ofCode hn hcodes d

theorem IsRanking.eq_shownLine (h : IsRanking messages lines) {l : Line} (hl : l ∈ lines) :
    l = shownLine messages l.code := by
  obtain ⟨c, -, rfl⟩ := (h.mem_lines l).mp hl
  rfl

theorem IsRanking.mem_codes (h : IsRanking messages lines) {c : String} :
    c ∈ lines.map (·.code) ↔ c ∈ messages.map (·.code) := by
  rw [List.mem_map]
  constructor
  · rintro ⟨l, hl, rfl⟩
    obtain ⟨c, hc, rfl⟩ := (h.mem_lines l).mp hl
    exact hc
  · intro hc
    exact ⟨shownLine messages c, (h.mem_lines _).mpr ⟨c, hc, rfl⟩, rfl⟩

/-- No code has two lines: they would be the same one, and no line outranks itself. -/
theorem IsRanking.nodup_codes (h : IsRanking messages lines) : (lines.map (·.code)).Nodup := by
  rw [List.Nodup, List.pairwise_map]
  apply h.ranked.imp_of_mem
  intro a b ha hb hab hcode
  have heq : a = b := by rw [h.eq_shownLine ha, h.eq_shownLine hb, hcode]
  exact irrefl_of Line.Outranks b (heq ▸ hab)

theorem IsRanking.code_mem (h : IsRanking messages lines) :
    ∀ m ∈ messages, m.code ∈ lines.map (·.code) :=
  fun _ hm => h.mem_codes.mpr (List.mem_map_of_mem hm)

theorem IsRanking.grandTotal_eq (h : IsRanking messages lines) :
    grandTotal lines = shownSum messages := by
  have htotals : lines.map (·.total) = lines.map fun l => (shownTotal l.code messages : Int) :=
    List.map_congr_left fun l hl => congrArg Line.total (h.eq_shownLine hl)
  rw [Summary.grandTotal_eq, htotals, sum_codes fun c => shownTotal c messages,
    sum_shownTotal h.nodup_codes h.code_mem]

theorem IsRanking.columnSums_eq (h : IsRanking messages lines) :
    columnSums (directories messages) lines =
      (directories messages).map fun d => (shownColumnSum messages d : Int) := by
  have hlength : ∀ l ∈ lines, l.counts.length = (directories messages).length := by
    intro l hl
    rw [h.eq_shownLine hl, shownLine, List.length_map]
  rw [Summary.columnSums_eq hlength]
  apply List.ext_getElem
  · simp
  · intro i hi hi'
    have hi : i < (directories messages).length := by simpa using hi
    have hcounts : (lines.map fun l => l.counts.getD i 0) =
        lines.map fun l => (shownCount l.code messages (directories messages)[i] : Int) := by
      apply List.map_congr_left
      intro l hl
      have hline := congrArg Line.counts (h.eq_shownLine hl)
      simp [hline, shownLine, hi]
    rw [List.getElem_map, List.getElem_map, List.getElem_range, hcounts,
      sum_codes fun c => shownCount c messages (directories messages)[i],
      sum_shownCount h.nodup_codes h.code_mem]

end Sums

section Printing

variable {messages : List Message} {lines : List Line}

theorem text?_natCast {n : Nat} (h : n < 10 ^ digitLimit) :
    Decimal.text? n = .ok (Decimal.text n) :=
  Decimal.text?_eq_ok_iff.mpr ⟨h, rfl⟩

theorem shownTotal_le (c : String) (messages : List Message) :
    shownTotal c messages ≤ shownSum messages :=
  Nat.add_le_add (length_ofCode_le c messages) (by
    rw [inDirectory, inDirectory, ofCode]
    exact List.Sublist.countP_le List.filter_sublist)

theorem shownCount_le (c : String) (messages : List Message) (d : String) :
    shownCount c messages d ≤ shownSum messages := by
  rw [shownCount]
  split
  · exact shownTotal_le c messages
  · exact (inDirectory_ofCode_le d c messages).trans (Nat.le_add_right _ _)

/-- Counts are written as they are where the greatest of them can be written. -/
theorem countTexts_natCast {α : Type} (as : List α) (f : α → Nat)
    (h : ∀ a ∈ as, f a < 10 ^ digitLimit) :
    countTexts (as.map fun a => (f a : Int)) = .ok (as.map fun a => Decimal.text (f a)) := by
  rw [countTexts, mapM_eq_ok_iff, List.forall₂_map_left_iff, List.forall₂_map_right_iff,
    List.forall₂_same]
  exact fun a ha => text?_natCast (h a ha)

/-- The texts in the line of a code, one for each column. -/
def shownTexts (messages : List Message) (c : String) : List String :=
  c :: shownSymbol c messages :: Decimal.text (shownTotal c messages) ::
    (directories messages).map fun d => Decimal.text (shownCount c messages d)

/-- The texts of a line are those of its numbers if the sum of all totals can be written. -/
theorem texts_shownLine (hshort : shownSum messages < 10 ^ digitLimit) (c : String) :
    (shownLine messages c).texts = .ok (shownTexts messages c) := by
  have htotal := text?_natCast ((shownTotal_le c messages).trans_lt hshort)
  have hcounts := countTexts_natCast (directories messages) (shownCount c messages)
    fun d _ => (shownCount_le c messages d).trans_lt hshort
  simp only [Line.texts, shownLine, htotal, hcounts, ok_bind, shownTexts]

/-- A sheet of lines can be made if the sum of all totals can be written. -/
theorem IsRanking.exists_sheetOf (h : IsRanking messages lines)
    (hshort : shownSum messages < 10 ^ digitLimit) :
    ∃ s, sheetOf (directories messages) lines = .ok s := by
  obtain ⟨widths, hwidths⟩ : ∃ widths, lines.foldlM Line.widen
      ((titles (directories messages)).map String.length) = .ok widths := by
    apply exists_foldlM_eq_ok
    intro l hl widths
    rw [h.eq_shownLine hl, Line.widen, texts_shownLine hshort]
    exact ⟨_, rfl⟩
  rw [sheetOf, hwidths]
  exact ⟨_, rfl⟩

theorem sheetOf_eq_ok_iff {columns : List String} {s : Sheet} :
    sheetOf columns lines = .ok s ↔
      s.columns = columns ∧ s.lines = lines ∧ s.total = grandTotal lines ∧
        s.sums = columnSums columns lines ∧
        lines.foldlM Line.widen ((titles columns).map String.length) = .ok s.widths := by
  rw [sheetOf, map_eq_ok_iff]
  constructor
  · rintro ⟨widths, hwidths, rfl⟩
    exact ⟨rfl, rfl, rfl, rfl, hwidths⟩
  · rintro ⟨rfl, rfl, htotal, hsums, hwidths⟩
    refine ⟨s.widths, hwidths, ?_⟩
    rw [← htotal, ← hsums]

/-- The lines of a sheet are printed if the sum of all totals can be written. -/
theorem IsRanking.exists_texts (h : IsRanking messages lines)
    (hshort : shownSum messages < 10 ^ digitLimit) {s : Sheet}
    (hs : sheetOf (directories messages) lines = .ok s) : ∃ texts, s.texts = .ok texts := by
  obtain ⟨-, hlines, htotal, hsums, -⟩ := sheetOf_eq_ok_iff.mp hs
  have hbody : ∃ body, lineTexts s.widths s.lines = .ok body := by
    apply exists_mapM_eq_ok
    intro l hl
    rw [hlines] at hl
    have htotal := text?_natCast ((shownTotal_le l.code messages).trans_lt hshort)
    have hcounts := countTexts_natCast (directories messages) (shownCount l.code messages)
      fun d _ => (shownCount_le l.code messages d).trans_lt hshort
    rw [h.eq_shownLine hl]
    exact ⟨_, by simp only [Line.text, shownLine, htotal, hcounts, ok_bind]; rfl⟩
  obtain ⟨body, hbody⟩ := hbody
  have hsum := text?_natCast hshort
  have hcolumns := countTexts_natCast (directories messages) (shownColumnSum messages)
    fun d _ => (shownColumnSum_le messages d).trans_lt hshort
  rw [h.grandTotal_eq] at htotal
  rw [h.columnSums_eq] at hsums
  exact ⟨_, by simp only [Sheet.texts, hbody, sumsText, htotal, hsums, hsum, hcolumns, ok_bind]; rfl⟩

/-- A summary is printed exactly if the sum of all totals can be written. -/
theorem exists_render_iff (h : IsUnnamed messages) :
    (∃ text, render messages = .ok text) ↔ shownSum messages < 10 ^ digitLimit := by
  rcases List.eq_nil_or_concat messages with rfl | ⟨_, _, hconcat⟩
  · exact iff_of_true ⟨_, rfl⟩ (Nat.pow_pos (by decide))
  · have hempty : messages.isEmpty = false := by rw [hconcat]; simp
    obtain ⟨lines, hranking, hsheet⟩ := h.exists_sheet_eq
    simp only [render, hempty, hsheet]
    constructor
    · rintro ⟨text, htext⟩
      obtain ⟨texts, htexts, -⟩ := bind_eq_ok_iff.mp htext
      obtain ⟨s, hs, htexts⟩ := bind_eq_ok_iff.mp htexts
      obtain ⟨-, -, htotal, -⟩ := sheetOf_eq_ok_iff.mp hs
      obtain ⟨body, -, htexts⟩ := bind_eq_ok_iff.mp htexts
      obtain ⟨sums, -, htexts⟩ := bind_eq_ok_iff.mp htexts
      obtain ⟨total, hsum, -⟩ := bind_eq_ok_iff.mp htexts
      rw [htotal, hranking.grandTotal_eq] at hsum
      exact (Decimal.text?_eq_ok_iff.mp hsum).1
    · intro hshort
      obtain ⟨s, hs⟩ := hranking.exists_sheetOf hshort
      obtain ⟨texts, htexts⟩ := hranking.exists_texts hshort hs
      refine ⟨String.join (texts.map (· ++ "\n")), ?_⟩
      rw [hs]
      simp [Except.bind, htexts]

end Printing

end MarkerLint.Summary
