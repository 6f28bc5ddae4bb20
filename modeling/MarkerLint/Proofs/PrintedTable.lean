import MarkerLint.Proofs.DigitLimit
import MarkerLint.Proofs.Elementwise
import MarkerLint.Summary

/-!
# The printed table

What the printed lines of a sheet show: the titles of the columns, each line of the sheet as a row of
its own with the code, the symbol, the total and a count for each column, then the sums, and at last
the sum of the totals. In a row every text stands in a cell, with blanks behind it and between marks
of styles.
-/

namespace MarkerLint.Summary

section Cells

variable {before after text : String} {texts : List String} {widths : List Nat}

/-- The text is made of marks of styles. -/
def IsStyling (mark : String) : Prop :=
  ∃ styles : List String, styles ⊆ [red, blue, gold, plain, bold] ∧ mark = String.join styles

/-- The cell shows the text: blanks stand behind it, and marks of styles around both. -/
def CellShows (text cell : String) : Prop :=
  ∃ before count after, IsStyling before ∧ IsStyling after ∧
    cell = before ++ (text ++ String.ofList (List.replicate count ' ')) ++ after

/-- The row shows the texts, each in a cell of its own, with marks of styles around them all. -/
def RowShows (texts : List String) (row : String) : Prop :=
  ∃ before cells after, IsStyling before ∧ IsStyling after ∧ List.Forall₂ CellShows texts cells ∧
    row = before ++ String.intercalate " | " cells ++ after

theorem isStyling_empty : IsStyling "" :=
  ⟨[], List.nil_subset _, rfl⟩

theorem isStyling_of_mem {style : String} (h : style ∈ [red, blue, gold, plain, bold]) :
    IsStyling style :=
  ⟨[style], List.cons_subset.mpr ⟨h, List.nil_subset _⟩, by simp [String.join_cons]⟩

theorem IsStyling.append (h : IsStyling before) (h' : IsStyling after) :
    IsStyling (before ++ after) := by
  obtain ⟨styles, hstyles, rfl⟩ := h
  obtain ⟨styles', hstyles', rfl⟩ := h'
  exact ⟨styles ++ styles', List.append_subset.mpr ⟨hstyles, hstyles'⟩, by simp⟩

theorem isStyling_red : IsStyling red := isStyling_of_mem (by simp)

theorem isStyling_plain : IsStyling plain := isStyling_of_mem (by simp)

theorem isStyling_bold : IsStyling bold := isStyling_of_mem (by simp)

theorem isStyling_bold_gold : IsStyling (bold ++ gold) :=
  isStyling_bold.append (isStyling_of_mem (by simp))

theorem isStyling_bold_blue : IsStyling (bold ++ blue) :=
  isStyling_bold.append (isStyling_of_mem (by simp))

/-- A padded text is a cell of its own, with or without marks around it. -/
theorem IsStyling.cellShows_pad (hbefore : IsStyling before) (hafter : IsStyling after)
    (width : Nat) (text : String) : CellShows text (before ++ pad width text ++ after) :=
  ⟨before, _, after, hbefore, hafter, rfl⟩

theorem cellShows_pad (width : Nat) (text : String) : CellShows text (pad width text) := by
  have hcell := isStyling_empty.cellShows_pad isStyling_empty width text
  rwa [String.empty_append, String.append_empty] at hcell

/-- Texts that are padded to enough widths are all shown, with or without marks around each of them.
-/
theorem IsStyling.forall₂_cellShows (hbefore : IsStyling before) (hafter : IsStyling after)
    (h : texts.length = widths.length) :
    List.Forall₂ CellShows texts ((padAll widths texts).map fun s => before ++ s ++ after) := by
  induction texts generalizing widths with
  | nil =>
      obtain rfl := List.length_eq_zero_iff.mp h.symm
      exact .nil
  | cons text texts ih =>
      cases widths with
      | nil => cases h
      | cons width widths =>
          exact .cons (hbefore.cellShows_pad hafter width text) (ih (Nat.succ.inj h))

theorem forall₂_cellShows_padAll (h : texts.length = widths.length) :
    List.Forall₂ CellShows texts (padAll widths texts) := by
  have hcells := isStyling_empty.forall₂_cellShows isStyling_empty h
  simpa only [String.empty_append, String.append_empty, List.map_id'] using hcells

/-- Cells side by side make a row. -/
theorem rowShows_joined {cells : List String} (h : List.Forall₂ CellShows texts cells) :
    RowShows texts (joined cells) :=
  ⟨"", cells, "", isStyling_empty, isStyling_empty, h, by simp [joined]⟩

end Cells

section Lines

variable {widths : List Nat} {row : String}

theorem countTexts_eq {counts : List Int} {texts : List String} (h : countTexts counts = .ok texts) :
    texts = counts.map Decimal.text := by
  have hforall := mapM_eq_ok_iff.mp h
  have hmap := map_eq_map_of_forall₂ (f := Decimal.text) (g := id) hforall
    fun _ _ hn => (Decimal.text?_eq_ok_iff.mp hn).2.symm
  rw [hmap, List.map_id]

/-- The texts in the cells of a line. -/
def Line.cells (l : Line) : List String :=
  l.code :: l.symbol :: Decimal.text l.total :: l.counts.map Decimal.text

theorem exists_three_widths {n : Nat} (h : widths.length = n + 3) :
    ∃ first second third rest, widths = first :: second :: third :: rest ∧ rest.length = n := by
  match widths, h with
  | first :: second :: third :: rest, h => exact ⟨first, second, third, rest, rfl, by simpa using h⟩

/-- The printed form of a line shows its cells. -/
theorem Line.rowShows_of_text {l : Line} (h : l.text widths = .ok row)
    (hwidths : widths.length = l.counts.length + 3) : RowShows l.cells row := by
  obtain ⟨first, second, third, rest, rfl, hrest⟩ := exists_three_widths hwidths
  obtain ⟨total, htotal, h⟩ := bind_eq_ok_iff.mp h
  obtain ⟨counts, hcounts, h⟩ := bind_eq_ok_iff.mp h
  obtain rfl := (Decimal.text?_eq_ok_iff.mp htotal).2
  obtain rfl := countTexts_eq hcounts
  obtain rfl := Except.ok.inj h
  have hlength : (l.counts.map Decimal.text).length = rest.length := by rw [List.length_map, hrest]
  refine rowShows_joined (.cons ?_ (.cons ?_ (.cons ?_ ?_)))
  · exact isStyling_red.cellShows_pad isStyling_plain first l.code
  · exact cellShows_pad second l.symbol
  · exact isStyling_bold.cellShows_pad isStyling_plain third _
  · exact forall₂_cellShows_padAll hlength

/-- The row of sums shows the sum of the totals and those of the columns. -/
theorem rowShows_of_sumsText {total : Int} {sums : List Int}
    (h : sumsText widths total sums = .ok row) (hwidths : widths.length = sums.length + 3) :
    RowShows ("Total" :: " " :: Decimal.text total :: sums.map Decimal.text) row := by
  obtain ⟨first, second, third, rest, rfl, hrest⟩ := exists_three_widths hwidths
  obtain ⟨totalText, htotal, h⟩ := bind_eq_ok_iff.mp h
  obtain ⟨sumTexts, hsums, h⟩ := bind_eq_ok_iff.mp h
  obtain rfl := (Decimal.text?_eq_ok_iff.mp htotal).2
  obtain rfl := countTexts_eq hsums
  obtain rfl := Except.ok.inj h
  have hlength : (sums.map Decimal.text).length = rest.length := by rw [List.length_map, hrest]
  refine rowShows_joined (.cons ?_ (.cons ?_ (.cons ?_ ?_)))
  · exact isStyling_bold_gold.cellShows_pad isStyling_plain first "Total"
  · exact cellShows_pad second " "
  · exact isStyling_bold_gold.cellShows_pad isStyling_plain third _
  · exact isStyling_bold_gold.forall₂_cellShows isStyling_plain hlength

end Lines

section Sheets

/-- The last line of a summary. -/
def closingLine (total : Int) : String :=
  bold ++ red ++ Decimal.text total ++ " Aabha model inconsistencies detected." ++ plain

/-- The printed lines show the sheet: the titles, a row for each line in order, the sums, and the sum
of the totals at the end. -/
inductive Sheet.IsPrintedAs (s : Sheet) : List String → Prop
  | table {header rule divider sums : String} {rows : List String}
      (header_shows : RowShows (titles s.columns) header)
      (rows_show : List.Forall₂ RowShows (s.lines.map Line.cells) rows)
      (sums_show : RowShows
        ("Total" :: " " :: Decimal.text s.total :: s.sums.map Decimal.text) sums) :
      s.IsPrintedAs ("" :: header :: rule :: (rows ++ [divider, sums, "", closingLine s.total]))

/-- The sheet has a width for each of its columns, and each line has a count for each directory. -/
structure Sheet.IsRectangular (s : Sheet) : Prop where
  length_widths : s.widths.length = s.columns.length + 3
  length_counts : ∀ l ∈ s.lines, l.counts.length = s.columns.length
  length_sums : s.sums.length = s.columns.length

/-- A printed sheet shows what it holds. -/
theorem Sheet.IsRectangular.isPrintedAs {s : Sheet} (h : s.IsRectangular) {printed : List String}
    (htexts : s.texts = .ok printed) : s.IsPrintedAs printed := by
  obtain ⟨rows, hrows, htexts⟩ := bind_eq_ok_iff.mp htexts
  obtain ⟨sums, hsums, htexts⟩ := bind_eq_ok_iff.mp htexts
  obtain ⟨total, htotal, htexts⟩ := bind_eq_ok_iff.mp htexts
  obtain rfl := (Decimal.text?_eq_ok_iff.mp htotal).2
  obtain rfl := Except.ok.inj htexts
  have htitles : (titles s.columns).length = s.widths.length := by
    rw [h.length_widths, titles, List.length_append, Nat.add_comm]
    rfl
  have hheader : RowShows (titles s.columns)
      (bold ++ blue ++ joined (padAll s.widths (titles s.columns)) ++ plain) :=
    ⟨_, _, _, isStyling_bold_blue, isStyling_plain, forall₂_cellShows_padAll htitles, rfl⟩
  have hbody : List.Forall₂ RowShows (s.lines.map Line.cells) rows := by
    rw [List.forall₂_map_left_iff]
    refine forall₂_imp_of_mem (mapM_eq_ok_iff.mp hrows) fun l hl row _ hrow => ?_
    exact Line.rowShows_of_text hrow (by rw [h.length_widths, h.length_counts l hl])
  have hsums := rowShows_of_sumsText hsums (by rw [h.length_widths, h.length_sums])
  simpa [closingLine] using IsPrintedAs.table hheader hbody hsums

end Sheets

end MarkerLint.Summary
