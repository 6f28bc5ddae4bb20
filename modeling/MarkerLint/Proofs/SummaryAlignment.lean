import MarkerLint.Proofs.StyledText
import MarkerLint.Proofs.SummarySheet

/-!
# The alignment of the summary

The columns of the table are as wide as their titles and the texts in the lines of the codes. All
rows are therefore of one length but the last one, which holds the sums: it is of that length
exactly if each sum is no longer than the title of its column or one of the numbers that it is the
sum of.
-/

namespace MarkerLint.Summary

open Text

section Lengths

theorem length_pad (width : Nat) (s : String) : (pad width s).length = max width s.length := by
  rw [pad, String.length_append, String.length_ofList, List.length_replicate]
  omega

theorem length_intercalate (separator : String) (parts : List String) :
    (separator.intercalate parts).length =
      (parts.map String.length).sum + separator.length * (parts.length - 1) := by
  induction parts with
  | nil => simp
  | cons part rest ih =>
      cases rest with
      | nil => simp
      | cons next rest =>
          rw [String.intercalate_cons_cons, String.length_append, String.length_append, ih]
          simp only [List.map_cons, List.sum_cons, List.length_cons, Nat.add_sub_cancel]
          rw [Nat.mul_succ]
          omega

variable {widths lengths : List Nat} {texts : List String}

/-- The length of a row whose cells have the widths of the columns. -/
def rowLength (widths : List Nat) : Nat :=
  widths.sum + 3 * (widths.length - 1)

/-- Cells that are padded take the width of their column, or their own if it is greater. -/
theorem length_joined_padAll (h : texts.length = widths.length) :
    (joined (padAll widths texts)).length =
      rowLength (List.zipWith max widths (texts.map String.length)) := by
  have hcells : (padAll widths texts).map String.length =
      List.zipWith max widths (texts.map String.length) := by
    rw [padAll, List.map_zipWith, List.zipWith_map_right]
    simp only [length_pad]
  have hlength : (padAll widths texts).length = widths.length := by simp [padAll, h]
  have hseparator : " | ".length = 3 := by decide
  rw [joined, length_intercalate, hcells, hlength, hseparator, rowLength]
  simp [h]

theorem getD_zipWith_max (h : lengths.length = widths.length) (i : Nat) :
    (List.zipWith max widths lengths).getD i 0 = max (widths.getD i 0) (lengths.getD i 0) := by
  rcases Nat.lt_or_ge i widths.length with hi | hi
  · simp [hi, h]
  · simp [hi, h]

theorem sum_le_sum_zipWith_max (h : lengths.length = widths.length) :
    widths.sum ≤ (List.zipWith max widths lengths).sum := by
  induction widths generalizing lengths with
  | nil => simp
  | cons width widths ih =>
      cases lengths with
      | nil => cases h
      | cons length lengths =>
          rw [List.zipWith_cons_cons, List.sum_cons, List.sum_cons]
          exact Nat.add_le_add (Nat.le_max_left _ _) (ih (Nat.succ.inj h))

/-- Taken together with lengths, widths keep their sum exactly if each length fits. -/
theorem sum_zipWith_max_eq_iff (h : lengths.length = widths.length) :
    (List.zipWith max widths lengths).sum = widths.sum ↔
      ∀ i, lengths.getD i 0 ≤ widths.getD i 0 := by
  induction widths generalizing lengths with
  | nil =>
      obtain rfl := List.length_eq_zero_iff.mp h
      simp
  | cons width widths ih =>
      cases lengths with
      | nil => cases h
      | cons length lengths =>
          have hle := sum_le_sum_zipWith_max (Nat.succ.inj h)
          rw [← Nat.and_forall_add_one]
          simp only [List.getD_cons_zero, List.getD_cons_succ, ← ih (Nat.succ.inj h),
            List.zipWith_cons_cons, List.sum_cons]
          omega

/-- A row has the length of the widths exactly if its texts fit. -/
theorem rowLength_zipWith_max_eq_iff (h : lengths.length = widths.length) :
    rowLength (List.zipWith max widths lengths) = rowLength widths ↔
      ∀ i, lengths.getD i 0 ≤ widths.getD i 0 := by
  rw [← sum_zipWith_max_eq_iff h, rowLength, rowLength, List.length_zipWith, h, Nat.min_self]
  omega

end Lengths

section Widths

variable {messages : List Message} {lines : List Line} {s : Sheet}

/-- The columns are as wide as they were, or as the longest text of a line in them. -/
theorem le_getD_of_foldlM_widen (texts : Line → List String) {start widths : List Nat}
    (htexts : ∀ l ∈ lines, l.texts = .ok (texts l))
    (hlength : ∀ l ∈ lines, (texts l).length = start.length)
    (hwidths : lines.foldlM Line.widen start = .ok widths) :
    widths.length = start.length ∧ ∀ i n, n ≤ widths.getD i 0 ↔
      n ≤ start.getD i 0 ∨ ∃ l ∈ lines, n ≤ ((texts l).map String.length).getD i 0 := by
  induction lines generalizing start with
  | nil =>
      cases hwidths
      simp
  | cons l rest ih =>
      have hl := hlength l List.mem_cons_self
      have hwiden : Line.widen start l =
          .ok (List.zipWith max start ((texts l).map String.length)) := by
        rw [Line.widen, htexts l List.mem_cons_self]
        rfl
      rw [List.foldlM_cons, hwiden, ok_bind] at hwidths
      have hzip : (List.zipWith max start ((texts l).map String.length)).length = start.length := by
        simp [hl]
      obtain ⟨hsame, hle⟩ := ih (fun l' hl' => htexts l' (List.mem_cons_of_mem _ hl'))
        (fun l' hl' => (hlength l' (List.mem_cons_of_mem _ hl')).trans hzip.symm) hwidths
      refine ⟨hsame.trans hzip, fun i n => ?_⟩
      rw [hle, getD_zipWith_max (by simp [hl]), le_max_iff, List.exists_mem_cons_iff, or_assoc]

theorem length_shownTexts (messages : List Message) (c : String) :
    (shownTexts messages c).length = (titles (directories messages)).length := by
  simp [shownTexts, titles]

/-- The columns of a sheet are as wide as their titles, or as the longest text in them. -/
theorem IsRanking.le_getD_widths_iff (h : IsRanking messages lines)
    (hshort : shownSum messages < 10 ^ digitLimit)
    (hs : sheetOf (directories messages) lines = .ok s) :
    s.widths.length = (titles (directories messages)).length ∧ ∀ i n, n ≤ s.widths.getD i 0 ↔
      n ≤ ((titles (directories messages)).map String.length).getD i 0 ∨
        ∃ c ∈ messages.map (·.code), n ≤ ((shownTexts messages c).map String.length).getD i 0 := by
  obtain ⟨-, -, -, -, hwidths⟩ := sheetOf_eq_ok_iff.mp hs
  obtain ⟨hlength, hle⟩ := le_getD_of_foldlM_widen (fun l => shownTexts messages l.code)
    (fun l hl => by rw [h.eq_shownLine hl]; exact texts_shownLine hshort _)
    (fun l _ => (length_shownTexts messages l.code).trans (List.length_map _).symm) hwidths
  refine ⟨hlength.trans (List.length_map _), fun i n => ?_⟩
  rw [hle]
  apply or_congr_right
  constructor
  · rintro ⟨l, hl, hn⟩
    exact ⟨l.code, h.mem_codes.mp (List.mem_map_of_mem hl), hn⟩
  · rintro ⟨c, hc, hn⟩
    obtain ⟨l, hl, rfl⟩ := List.mem_map.mp (h.mem_codes.mpr hc)
    exact ⟨l, hl, hn⟩

end Widths

section Rows

variable {widths : List Nat} {texts : List String}

theorem isPlain_pad {text : String} (h : IsPlain text) (width : Nat) : IsPlain (pad width text) :=
  h.append (isPlain_replicate _ (by decide))

theorem isPlain_dashes (width : Nat) : IsPlain (dashes width) :=
  isPlain_replicate width (by decide)

theorem isPlain_text (i : Int) : IsPlain (Decimal.text i) := by
  intro c hc
  rcases Decimal.mem_text hc with rfl | hdigit
  · decide
  · refine ⟨isLineBreak_eq_false_of (by decide) (isDecimal_of_isAsciiDigit hdigit), ?_⟩
    rintro rfl
    exact absurd hdigit (by decide)

/-- A text that is printed on one line and shows nothing. -/
def IsMark (mark : String) : Prop :=
  Shows mark ""

theorem IsMark.append {mark mark' : String} (h : IsMark mark) (h' : IsMark mark') :
    IsMark (mark ++ mark') :=
  Shows.append h h'

theorem isMark_red : IsMark red := shows_style (by decide +kernel)

theorem isMark_blue : IsMark blue := shows_style (by decide +kernel)

theorem isMark_gold : IsMark gold := shows_style (by decide +kernel)

theorem isMark_bold : IsMark bold := shows_style (by decide +kernel)

theorem isMark_plain : IsMark plain := shows_style (by decide +kernel)

/-- What stands between marks is shown without them. -/
theorem IsMark.shows_append {mark text shown : String} (hmark : IsMark mark) (h : Shows text shown) :
    Shows (mark ++ text ++ plain) shown := by
  have hstyled := (Shows.append hmark h).append isMark_plain
  rwa [String.empty_append, String.append_empty] at hstyled

theorem isPlain_separator : IsPlain " | " :=
  isPlain_of_all (by decide +kernel)

/-- Padded plain texts side by side show themselves. -/
theorem shows_padAll (h : ∀ t ∈ texts, IsPlain t) (widths : List Nat) :
    List.Forall₂ Shows (padAll widths texts) (padAll widths texts) := by
  rw [List.forall₂_same, padAll]
  intro cell hcell
  obtain ⟨i, hi, rfl⟩ := List.mem_iff_getElem.mp hcell
  rw [List.getElem_zipWith]
  exact (isPlain_pad (h _ (List.getElem_mem _)) _).shows

theorem exists_cons_of_length {n : Nat} (h : widths.length = n + 3) :
    ∃ first second third rest, widths = first :: second :: third :: rest := by
  match widths, h with
  | first :: second :: third :: rest, _ => exact ⟨first, second, third, rest, rfl⟩

/-- The line of a code is printed as its texts, padded to the widths. -/
theorem Line.exists_text {l : Line} (htexts : l.texts = .ok texts) (hplain : ∀ t ∈ texts, IsPlain t)
    (hlength : texts.length = widths.length) :
    ∃ row, l.text widths = .ok row ∧ Shows row (joined (padAll widths texts)) := by
  obtain ⟨total, htotal, htexts⟩ := bind_eq_ok_iff.mp htexts
  obtain ⟨counts, hcounts, htexts⟩ := bind_eq_ok_iff.mp htexts
  obtain rfl := (Except.ok.inj htexts).symm
  obtain ⟨first, second, third, rest, rfl⟩ := exists_cons_of_length (n := counts.length)
    (by simpa using hlength.symm)
  refine ⟨_, by rw [Line.text, htotal, ok_bind, hcounts, ok_bind], ?_⟩
  refine Shows.intercalate isPlain_separator (.cons ?_ (.cons ?_ (.cons ?_ ?_)))
  · exact isMark_red.shows_append (isPlain_pad (hplain _ (by simp)) _).shows
  · exact (isPlain_pad (hplain _ (by simp)) _).shows
  · exact isMark_bold.shows_append (isPlain_pad (hplain _ (by simp)) _).shows
  · exact shows_padAll (fun t ht => hplain t (by simp [ht])) rest

/-- So is the row of sums. -/
theorem exists_sumsText (widths : List Nat) {total : Int} {sums : List Int} {totalText : String}
    {sumTexts : List String}
    (htotal : Decimal.text? total = .ok totalText) (hsums : countTexts sums = .ok sumTexts)
    (hplain : ∀ t ∈ totalText :: sumTexts, IsPlain t) (hlength : sumTexts.length + 3 = widths.length) :
    ∃ row, sumsText widths total sums = .ok row ∧
      Shows row (joined (padAll widths ("Total" :: " " :: totalText :: sumTexts))) := by
  obtain ⟨first, second, third, rest, rfl⟩ := exists_cons_of_length hlength.symm
  have hmark : IsMark (bold ++ gold) := isMark_bold.append isMark_gold
  refine ⟨_, by rw [sumsText, htotal, ok_bind, hsums, ok_bind], ?_⟩
  refine Shows.intercalate isPlain_separator (.cons ?_ (.cons ?_ (.cons ?_ ?_)))
  · exact hmark.shows_append (isPlain_pad (isPlain_of_all (by decide +kernel)) _).shows
  · exact (isPlain_pad (isPlain_of_all (by decide +kernel)) _).shows
  · exact hmark.shows_append (isPlain_pad (hplain _ (by simp)) _).shows
  · have hcells := shows_padAll (fun t ht => hplain t (List.mem_cons_of_mem _ ht)) rest
    rw [List.forall₂_same] at hcells
    refine List.forall₂_map_left_iff.mpr (List.forall₂_same.mpr fun cell hcell => ?_)
    exact hmark.shows_append (hcells cell hcell)

end Rows

section Messages

/-- The texts of a message are printed on one line as they stand, and its code has five characters.
-/
structure Message.IsTidy (m : Message) : Prop where
  length_code : m.code.length = 5
  code : IsPlain m.code
  symbol : IsPlain m.symbol
  path : IsPlain m.path

theorem mem_of_mem_splitAtFrom {separator : Char} {part cs piece : List Char}
    (h : piece ∈ splitAtFrom separator part cs) {c : Char} (hc : c ∈ piece) : c ∈ part ∨ c ∈ cs := by
  induction cs generalizing part with
  | nil =>
      obtain rfl := List.mem_singleton.mp h
      exact .inl (List.mem_reverse.mp hc)
  | cons d cs ih =>
      rw [splitAtFrom] at h
      split at h
      · rcases List.mem_cons.mp h with rfl | h
        · exact .inl (List.mem_reverse.mp hc)
        · exact .inr (List.mem_cons_of_mem _ ((ih h).resolve_left List.not_mem_nil))
      · rcases ih h with hpart | hcs
        · rcases List.mem_cons.mp hpart with rfl | hpart
          · exact .inr List.mem_cons_self
          · exact .inl hpart
        · exact .inr (List.mem_cons_of_mem _ hcs)

/-- The name of a directory is made of characters of the path. -/
theorem isPlain_markerDirectory {path : String} (h : IsPlain path) :
    IsPlain (markerDirectory path) := by
  rw [markerDirectory]
  split
  · next name hname =>
      have hpart : name ∈ splitAt '/' path.toList :=
        List.mem_of_mem_filter (List.mem_of_mem_dropLast (List.mem_of_getLast? hname))
      intro c hc
      rw [String.toList_ofList] at hc
      exact h c ((mem_of_mem_splitAtFrom hpart hc).resolve_left List.not_mem_nil)
  · exact isPlain_of_all (by decide +kernel)

variable {messages : List Message}

theorem isPlain_of_mem_directories (h : ∀ m ∈ messages, m.IsTidy) {d : String}
    (hd : d ∈ directories messages) : IsPlain d := by
  obtain ⟨m, hm, rfl⟩ := List.mem_map.mp (mem_directories.mp hd)
  exact isPlain_markerDirectory (h m hm).path

theorem isPlain_of_mem_titles (h : ∀ m ∈ messages, m.IsTidy) :
    ∀ t ∈ titles (directories messages), IsPlain t := by
  intro t ht
  rcases List.mem_append.mp ht with htitle | hd
  · simp only [List.mem_cons, List.not_mem_nil, or_false] at htitle
    rcases htitle with rfl | rfl | rfl
    all_goals exact isPlain_of_all (by decide +kernel)
  · exact isPlain_of_mem_directories h hd

theorem isPlain_of_mem_shownTexts (h : ∀ m ∈ messages, m.IsTidy) {c : String}
    (hc : c ∈ messages.map (·.code)) : ∀ t ∈ shownTexts messages c, IsPlain t := by
  intro t ht
  simp only [shownTexts, List.mem_cons, List.mem_map] at ht
  rcases ht with rfl | rfl | rfl | ⟨d, -, rfl⟩
  · obtain ⟨m, hm, rfl⟩ := List.mem_map.mp hc
    exact (h m hm).code
  · rw [shownSymbol]
    cases hlast : (ofCode c messages).getLast? with
    | none => exact isPlain_of_all (by decide +kernel)
    | some m => exact (h m (List.mem_of_mem_filter (List.mem_of_getLast? hlast))).symbol
  · exact isPlain_text _
  · exact isPlain_text _

end Messages

section Table

/-- The row is printed on one line, and so many characters of it are shown. -/
def IsOfLength (n : Nat) (row : String) : Prop :=
  ∃ shown, Shows row shown ∧ shown.length = n

theorem IsOfLength.length_dropEscapes {n : Nat} {row : String} (h : IsOfLength n row) :
    (dropEscapes row).length = n := by
  obtain ⟨shown, hshown, hlength⟩ := h
  rw [hshown.dropEscapes_eq, hlength]

/-- A row shows the same number of characters as rows of a length exactly if it has that length. -/
theorem exists_length_iff {n k : Nat} {table : List String} {last : String} (hne : table ≠ [])
    (htable : ∀ row ∈ table, IsOfLength n row) (hlast : IsOfLength k last) :
    (∃ length, ∀ row ∈ table ++ [last], (dropEscapes row).length = length) ↔ k = n := by
  constructor
  · rintro ⟨length, hlength⟩
    obtain ⟨first, hfirst⟩ := List.exists_mem_of_ne_nil table hne
    rw [← hlast.length_dropEscapes, ← (htable first hfirst).length_dropEscapes,
      hlength last (by simp), hlength first (by simp [hfirst])]
  · rintro rfl
    refine ⟨k, fun row hrow => ?_⟩
    rcases List.mem_append.mp hrow with hrow | hrow
    · exact (htable row hrow).length_dropEscapes
    · rw [List.mem_singleton.mp hrow, hlast.length_dropEscapes]

theorem IsOfLength.unbroken {n : Nat} {row : String} (h : IsOfLength n row) :
    ∀ c ∈ row.toList, isLineBreak c = false := by
  obtain ⟨shown, hshown, -⟩ := h
  exact hshown.unbroken

variable {widths : List Nat} {texts columns : List String}

/-- Cells with texts that fit make a row with the widths of the columns. -/
theorem length_joined_of_fit (hlength : texts.length = widths.length)
    (hfit : ∀ i, (texts.map String.length).getD i 0 ≤ widths.getD i 0) :
    (joined (padAll widths texts)).length = rowLength widths := by
  rw [length_joined_padAll hlength, rowLength_zipWith_max_eq_iff (by simpa using hlength)]
  exact hfit

/-- The row of titles. -/
def titlesText (widths : List Nat) (columns : List String) : String :=
  bold ++ blue ++ joined (padAll widths (titles columns)) ++ plain

/-- The rule between the titles and the lines. -/
def ruleText (widths : List Nat) : String :=
  blue ++ "-|-".intercalate (widths.map dashes) ++ plain

/-- The rule between the lines and the sums. -/
def dividerText (widths : List Nat) : String :=
  blue ++ dashes (widths.foldl (· + ·) 0 + 3 * (widths.length - 1)) ++ plain

theorem isOfLength_titlesText (hplain : ∀ t ∈ titles columns, IsPlain t)
    (hlength : (titles columns).length = widths.length)
    (hfit : ∀ i, ((titles columns).map String.length).getD i 0 ≤ widths.getD i 0) :
    IsOfLength (rowLength widths) (titlesText widths columns) := by
  refine ⟨joined (padAll widths (titles columns)), ?_, length_joined_of_fit hlength hfit⟩
  have hcells := shows_padAll hplain widths
  exact (isMark_bold.append isMark_blue).shows_append (.intercalate isPlain_separator hcells)

theorem isOfLength_ruleText (widths : List Nat) :
    IsOfLength (rowLength widths) (ruleText widths) := by
  have hdashes : List.Forall₂ Shows (widths.map dashes) (widths.map dashes) := by
    rw [List.forall₂_same, List.forall_mem_map]
    exact fun width _ => (isPlain_dashes width).shows
  have hseparator : IsPlain "-|-" := isPlain_of_all (by decide +kernel)
  have hlengths : (widths.map dashes).map String.length = widths := by
    rw [List.map_map]
    exact (List.map_congr_left fun width _ => by simp [dashes]).trans (List.map_id widths)
  refine ⟨_, isMark_blue.shows_append (.intercalate hseparator hdashes), ?_⟩
  rw [length_intercalate, hlengths, List.length_map, rowLength]
  rfl

theorem isOfLength_dividerText (widths : List Nat) :
    IsOfLength (rowLength widths) (dividerText widths) := by
  refine ⟨_, isMark_blue.shows_append (isPlain_dashes _).shows, ?_⟩
  rw [dashes, String.length_ofList, List.length_replicate, ← List.sum_eq_foldl, rowLength]

theorem shows_closingLine (total : Int) :
    Shows (closingLine total) (Decimal.text total ++ " Aabha model inconsistencies detected.") := by
  have htext := (isPlain_text total).append
    (t := " Aabha model inconsistencies detected.") (isPlain_of_all (by decide +kernel))
  have hmark := (isMark_bold.append isMark_red).shows_append htext.shows
  rw [← String.append_assoc] at hmark
  exact hmark

variable {messages : List Message} {lines : List Line} {s : Sheet}

/-- The texts in the row of sums, one for each column. -/
def sumsTexts (messages : List Message) : List String :=
  "Total" :: " " :: Decimal.text (shownSum messages) ::
    (directories messages).map fun d => Decimal.text (shownColumnSum messages d)

theorem length_sumsTexts (messages : List Message) :
    (sumsTexts messages).length = (titles (directories messages)).length := by
  simp [sumsTexts, titles]

/-- The lines of a sheet are rows with the widths of its columns. -/
theorem IsRanking.exists_lineTexts (h : IsRanking messages lines) (htidy : ∀ m ∈ messages, m.IsTidy)
    (hshort : shownSum messages < 10 ^ digitLimit)
    (hs : sheetOf (directories messages) lines = .ok s) :
    ∃ body, lineTexts s.widths lines = .ok body ∧ body.length = lines.length ∧
      ∀ row ∈ body, IsOfLength (rowLength s.widths) row := by
  obtain ⟨hlength, hwidths⟩ := h.le_getD_widths_iff hshort hs
  have hrow : ∀ l ∈ lines, ∃ row,
      l.text s.widths = .ok row ∧ IsOfLength (rowLength s.widths) row := by
    intro l hl
    have hc := h.mem_codes.mp (List.mem_map_of_mem hl)
    have htexts := (length_shownTexts messages l.code).trans hlength.symm
    obtain ⟨row, hrow, hshows⟩ := Line.exists_text (texts_shownLine hshort l.code)
      (isPlain_of_mem_shownTexts htidy hc) htexts
    rw [← h.eq_shownLine hl] at hrow
    exact ⟨row, hrow, _, hshows, length_joined_of_fit htexts fun i =>
      (hwidths i _).mpr (.inr ⟨l.code, hc, Nat.le_refl _⟩)⟩
  obtain ⟨body, hbody⟩ := exists_forall₂_of_forall_mem hrow
  refine ⟨body, mapM_eq_ok_iff.mpr (hbody.imp fun _ _ hrow => hrow.1), hbody.length_eq.symm, ?_⟩
  intro row hmem
  obtain ⟨l, -, hrow⟩ := exists_of_mem_forall₂ hbody hmem
  exact hrow.2

/-- So is each row of the printed sheet but that of the sums, whose cells take the room they need.
-/
theorem IsRanking.exists_table (h : IsRanking messages lines) (htidy : ∀ m ∈ messages, m.IsTidy)
    (hshort : shownSum messages < 10 ^ digitLimit)
    (hs : sheetOf (directories messages) lines = .ok s) :
    ∃ table sums, s.texts = .ok ("" :: (table ++ [sums]) ++ ["", closingLine (shownSum messages)]) ∧
      table.length = lines.length + 3 ∧ (∀ row ∈ table, IsOfLength (rowLength s.widths) row) ∧
      IsOfLength (rowLength (List.zipWith max s.widths ((sumsTexts messages).map String.length)))
        sums := by
  obtain ⟨hlength, hwidths⟩ := h.le_getD_widths_iff hshort hs
  obtain ⟨hcolumns, hlines, htotal, hsums, -⟩ := sheetOf_eq_ok_iff.mp hs
  rw [h.grandTotal_eq] at htotal
  rw [h.columnSums_eq] at hsums
  obtain ⟨body, hbody, hbodyLength, hrows⟩ := h.exists_lineTexts htidy hshort hs
  have htotalText := text?_natCast hshort
  have hsumTexts := countTexts_natCast (directories messages) (shownColumnSum messages)
    fun d _ => (shownColumnSum_le messages d).trans_lt hshort
  obtain ⟨sums, hsumsText, hsumsShows⟩ := exists_sumsText s.widths htotalText hsumTexts
    (by
      intro t ht
      simp only [List.mem_cons, List.mem_map] at ht
      rcases ht with rfl | ⟨d, -, rfl⟩ <;> exact isPlain_text _)
    (by rw [hlength, ← length_sumsTexts]; rfl)
  refine ⟨titlesText s.widths s.columns :: ruleText s.widths :: (body ++ [dividerText s.widths]),
    sums, ?_, ?_, ?_, _, hsumsShows, length_joined_padAll ?_⟩
  · rw [Sheet.texts, hlines, hbody, ok_bind, htotal, hsums, hsumsText, ok_bind, htotalText, ok_bind]
    simp [titlesText, ruleText, dividerText, closingLine]
  · simp [hbodyLength]
  · intro row hrow
    simp only [List.mem_cons, List.mem_append, List.not_mem_nil, or_false] at hrow
    rcases hrow with rfl | rfl | hrow | rfl
    · rw [hcolumns]
      exact isOfLength_titlesText (isPlain_of_mem_titles htidy) hlength.symm fun i =>
        (hwidths i _).mpr (.inl (Nat.le_refl _))
    · exact isOfLength_ruleText s.widths
    · exact hrows row hrow
    · exact isOfLength_dividerText s.widths
  · exact (length_sumsTexts messages).trans hlength.symm

end Table

section Alignment

/-- The codes of messages, each once. -/
def codesOf (messages : List Message) : List String :=
  (messages.map (·.code)).dedup

/-- The sum of counts is no longer than the title of the column or one of the counts. -/
def Fits (title : String) (counts : List Nat) : Prop :=
  (Decimal.text counts.sum).length ≤ title.length ∨
    ∃ n ∈ counts, (Decimal.text counts.sum).length ≤ (Decimal.text n).length

/-- In each column, the sum over the codes fits where the counts of the codes do. -/
structure SumsFit (messages : List Message) : Prop where
  total : Fits "Total" ((codesOf messages).map fun c => (ofCode c messages).length)
  directory : ∀ d ∈ directories messages,
    Fits d ((codesOf messages).map fun c => inDirectory d (ofCode c messages))

variable {messages : List Message} {lines : List Line} {s : Sheet}

theorem code_mem_codesOf : ∀ m ∈ messages, m.code ∈ codesOf messages :=
  fun _ hm => List.mem_dedup.mpr (List.mem_map_of_mem hm)

theorem IsRanking.length_eq (h : IsRanking messages lines) :
    lines.length = (codesOf messages).length := by
  have hperm : (lines.map (·.code)).Perm (codesOf messages) := by
    refine (List.perm_ext_iff_of_nodup h.nodup_codes (List.nodup_dedup _)).mpr fun c => ?_
    exact h.mem_codes.trans List.mem_dedup.symm
  exact (List.length_map _).symm.trans hperm.length_eq

/-- The counts of a column are those of its items. -/
theorem forall_getD_iff {α : Type} {ds : List α} {codes : List String} {f g : α → Nat}
    {k : String → α → Nat} :
    (∀ i, (ds.map f).getD i 0 ≤ (ds.map g).getD i 0 ∨
        ∃ c ∈ codes, (ds.map f).getD i 0 ≤ (ds.map (k c)).getD i 0) ↔
      ∀ d ∈ ds, f d ≤ g d ∨ ∃ c ∈ codes, f d ≤ k c d := by
  induction ds with
  | nil => simp
  | cons d ds ih =>
      rw [← Nat.and_forall_add_one, List.forall_mem_cons, ← ih]
      simp only [List.map_cons, List.getD_cons_zero, List.getD_cons_succ]

theorem fits_iff {title : String} {f : String → Nat} {sum : Nat}
    (hsum : ((codesOf messages).map f).sum = sum) :
    Fits title ((codesOf messages).map f) ↔
      (Decimal.text sum).length ≤ title.length ∨
        ∃ c ∈ messages.map (·.code), (Decimal.text sum).length ≤ (Decimal.text (f c)).length := by
  rw [Fits, hsum, codesOf]
  simp only [List.mem_map, List.mem_dedup, exists_exists_and_eq_and]

section Unreserved

variable (hnames : ∀ m ∈ messages, markerDirectory m.path ≠ totalKey)
include hnames

/-- Without a directory that has the name of the total, each message is counted once. -/
theorem shownSum_eq : shownSum messages = messages.length := by
  rw [shownSum, inDirectory_eq_zero_iff.mpr hnames, Nat.add_zero]

theorem fits_total_iff : Fits "Total" ((codesOf messages).map fun c => (ofCode c messages).length) ↔
    (Decimal.text (shownSum messages)).length ≤ "Total".length ∨
      ∃ c ∈ messages.map (·.code),
        (Decimal.text (shownSum messages)).length ≤ (Decimal.text (shownTotal c messages)).length := by
  have htotal (c : String) : shownTotal c messages = (ofCode c messages).length := by
    have hcode : inDirectory totalKey (ofCode c messages) = 0 :=
      inDirectory_eq_zero_iff.mpr fun m hm => hnames m (List.mem_of_mem_filter hm)
    rw [shownTotal, hcode, Nat.add_zero]
  simp only [htotal, shownSum_eq hnames]
  exact fits_iff (sum_length_ofCode (List.nodup_dedup _) code_mem_codesOf)

theorem fits_directory_iff {d : String} (hd : d ∈ directories messages) :
    Fits d ((codesOf messages).map fun c => inDirectory d (ofCode c messages)) ↔
      (Decimal.text (shownColumnSum messages d)).length ≤ d.length ∨
        ∃ c ∈ messages.map (·.code), (Decimal.text (shownColumnSum messages d)).length ≤
          (Decimal.text (shownCount c messages d)).length := by
  obtain ⟨m, hm, rfl⟩ := List.mem_map.mp (mem_directories.mp hd)
  simp only [shownCount, shownColumnSum, if_neg (hnames m hm)]
  exact fits_iff (sum_inDirectory_ofCode (List.nodup_dedup _) code_mem_codesOf _)

/-- The texts of the sums fit their columns exactly if the sums fit: the title of the row always
fits the column of the codes. -/
theorem IsRanking.sumsTexts_fit_iff (h : IsRanking messages lines) (hne : messages ≠ [])
    (htidy : ∀ m ∈ messages, m.IsTidy) (hshort : shownSum messages < 10 ^ digitLimit)
    (hs : sheetOf (directories messages) lines = .ok s) :
    (∀ i, ((sumsTexts messages).map String.length).getD i 0 ≤ s.widths.getD i 0) ↔
      SumsFit messages := by
  obtain ⟨-, hwidths⟩ := h.le_getD_widths_iff hshort hs
  obtain ⟨m, hm⟩ := List.exists_mem_of_ne_nil messages hne
  have hcode : ∃ c ∈ messages.map (·.code), "Total".length ≤ c.length :=
    ⟨m.code, List.mem_map_of_mem hm, (htidy m hm).length_code.ge⟩
  have hsymbol : " ".length ≤ "Symbol".length := by decide
  -- The first four columns are those of the code, the symbol, the total and all directories.
  simp only [hwidths]
  rw [← Nat.and_forall_add_one, ← Nat.and_forall_add_one, ← Nat.and_forall_add_one]
  simp only [sumsTexts, titles, shownTexts, List.map_cons, List.map_map, List.getD_cons_zero,
    List.getD_cons_succ, List.cons_append, List.nil_append, Function.comp_def]
  rw [and_iff_right (.inr hcode), and_iff_right (.inl hsymbol), forall_getD_iff,
    ← fits_total_iff hnames]
  constructor
  · rintro ⟨htotal, hdirectory⟩
    exact ⟨htotal, fun d hd => (fits_directory_iff hnames hd).mpr (hdirectory d hd)⟩
  · rintro ⟨htotal, hdirectory⟩
    exact ⟨htotal, fun d hd => (fits_directory_iff hnames hd).mp (hdirectory d hd)⟩

end Unreserved

/-- A summary is printed as the lines of a table: rows of one length, and then that of the sums,
whose length is the same exactly if the sums fit. -/
theorem exists_printedTable (hne : messages ≠ []) (htidy : ∀ m ∈ messages, m.IsTidy)
    (hnames : ∀ m ∈ messages, markerDirectory m.path ≠ totalKey ∧ markerDirectory m.path ≠ symbolKey)
    (hshort : messages.length < 10 ^ digitLimit) :
    ∃ text table sums n k, render messages = .ok text ∧
      Text.lines text.toList =
        ("" :: (table ++ [sums]) ++ ["", closingLine messages.length]).map String.toList ∧
      table.length = (codesOf messages).length + 3 ∧
      (∀ row ∈ table, IsOfLength n row) ∧ IsOfLength k sums ∧ (k = n ↔ SumsFit messages) := by
  have hsum := shownSum_eq fun m hm => (hnames m hm).1
  have hempty : messages.isEmpty = false := by simpa using hne
  obtain ⟨lines, hlines, hsheet⟩ := IsUnnamed.exists_sheet_eq fun m hm => (hnames m hm).2
  obtain ⟨s, hs⟩ := hlines.exists_sheetOf (hsum ▸ hshort)
  obtain ⟨table, sums, htexts, hlength, htable, hsums⟩ :=
    hlines.exists_table htidy (hsum ▸ hshort) hs
  rw [hsum] at htexts
  refine ⟨_, table, sums, _, _, ?_, lines_join ?_, ?_, htable, hsums, ?_⟩
  · rw [render, hempty, hsheet, hs]
    simp only [Bool.false_eq_true, if_false, Except.bind, htexts, ok_bind]
  · intro row hrow
    simp only [List.cons_append, List.append_assoc, List.nil_append, List.mem_cons, List.mem_append,
      List.not_mem_nil, or_false] at hrow
    rcases hrow with rfl | hrow | rfl | rfl | rfl
    · exact fun c hc => by cases hc
    · exact (htable row hrow).unbroken
    · exact hsums.unbroken
    · exact fun c hc => by cases hc
    · exact (shows_closingLine messages.length).unbroken
  · rw [hlength, hlines.length_eq]
  · have hwidths := (hlines.le_getD_widths_iff (hsum ▸ hshort) hs).1
    rw [rowLength_zipWith_max_eq_iff (by rw [List.length_map, length_sumsTexts, hwidths])]
    exact hlines.sumsTexts_fit_iff (fun m hm => (hnames m hm).1) hne htidy (hsum ▸ hshort) hs

/-- In the printed table all rows show as many characters but the last one, the row of sums. It does
too exactly if each sum is no longer than the title of its column or one of the numbers that it is
the sum of. -/
theorem table_aligned_iff (hne : messages ≠ []) (htidy : ∀ m ∈ messages, m.IsTidy)
    (hnames : ∀ m ∈ messages, markerDirectory m.path ≠ totalKey ∧ markerDirectory m.path ≠ symbolKey)
    (hshort : messages.length < 10 ^ digitLimit) :
    ∃ text table sums, render messages = .ok text ∧
      Text.lines text.toList =
        ("" :: (table ++ [sums]) ++ ["", closingLine messages.length]).map String.toList ∧
      table.length = (codesOf messages).length + 3 ∧
      (∃ n, ∀ row ∈ table, (dropEscapes row).length = n) ∧
      ((∃ n, ∀ row ∈ table ++ [sums], (dropEscapes row).length = n) ↔ SumsFit messages) := by
  obtain ⟨text, table, sums, n, k, htext, hlines, hlength, htable, hsums, hfit⟩ :=
    exists_printedTable hne htidy hnames hshort
  have htable_ne : table ≠ [] := List.ne_nil_of_length_pos (by omega)
  refine ⟨text, table, sums, htext, hlines, hlength, ?_, ?_⟩
  · exact ⟨n, fun row hrow => (htable row hrow).length_dropEscapes⟩
  · exact (exists_length_iff htable_ne htable hsums).trans hfit

instance (title : String) (counts : List Nat) : Decidable (Fits title counts) :=
  inferInstanceAs (Decidable (_ ∨ _))

/-- As many messages of two codes from one directory. -/
def evenMessages (n : Nat) : List Message :=
  List.replicate n ⟨"W5101", "automated-action-long-duration", "a/M.py"⟩ ++
    List.replicate n ⟨"E5201", "missing-validation-for-precondition", "a/M.py"⟩

theorem isTidy_of_mem_evenMessages {n : Nat} : ∀ m ∈ evenMessages n, m.IsTidy := by
  intro m hm
  rcases List.mem_append.mp hm with hm | hm
  all_goals
    rw [List.eq_of_mem_replicate hm]
    constructor
    · decide
    all_goals exact isPlain_of_all (by decide +kernel)

theorem markerDirectory_of_mem_evenMessages {n : Nat} : ∀ m ∈ evenMessages n,
    markerDirectory m.path ≠ totalKey ∧ markerDirectory m.path ≠ symbolKey := by
  intro m hm
  rcases List.mem_append.mp hm with hm | hm
  all_goals
    rw [List.eq_of_mem_replicate hm]
    decide +kernel

theorem length_evenMessages_lt {n : Nat} (hn : n < 50) :
    (evenMessages n).length < 10 ^ digitLimit := by
  have hlength : (evenMessages n).length = n + n := by simp [evenMessages]
  calc (evenMessages n).length
    _ < 10 ^ 2 := by omega
    _ ≤ 10 ^ digitLimit := Nat.pow_le_pow_right (by decide) (by decide)

/-- Four messages of each code are eight in all, which is as short as four. -/
theorem table_aligned_eightMessages :
    evenMessages 4 ≠ [] ∧ ∃ text table sums, render (evenMessages 4) = .ok text ∧
      Text.lines text.toList =
        ("" :: (table ++ [sums]) ++ ["", closingLine (evenMessages 4).length]).map String.toList ∧
      ∃ n, ∀ row ∈ table ++ [sums], (dropEscapes row).length = n := by
  have hne : evenMessages 4 ≠ [] := by decide
  obtain ⟨text, table, sums, htext, hlines, -, -, haligned⟩ := table_aligned_iff hne
    isTidy_of_mem_evenMessages markerDirectory_of_mem_evenMessages (length_evenMessages_lt (by decide))
  refine ⟨hne, text, table, sums, htext, hlines, haligned.mpr ⟨?_, ?_⟩⟩
  all_goals decide +kernel

/-- Five messages of each code are ten in all, which is longer than five and than the title. -/
theorem table_misaligned_tenMessages :
    evenMessages 5 ≠ [] ∧ (∀ m ∈ evenMessages 5, m.IsTidy) ∧
      (∀ m ∈ evenMessages 5,
        markerDirectory m.path ≠ totalKey ∧ markerDirectory m.path ≠ symbolKey) ∧
      ∃ text table sums, render (evenMessages 5) = .ok text ∧
        Text.lines text.toList =
          ("" :: (table ++ [sums]) ++ ["", closingLine (evenMessages 5).length]).map String.toList ∧
        ¬ ∃ n, ∀ row ∈ table ++ [sums], (dropEscapes row).length = n := by
  have hne : evenMessages 5 ≠ [] := by decide
  have hmisfit : ¬ SumsFit (evenMessages 5) := fun h =>
    absurd (h.directory "a" (by decide +kernel)) (by decide +kernel)
  obtain ⟨text, table, sums, n, k, htext, hlines, hlength, htable, hsums, hfit⟩ :=
    exists_printedTable hne isTidy_of_mem_evenMessages markerDirectory_of_mem_evenMessages
      (length_evenMessages_lt (by decide))
  have htable_ne : table ≠ [] := List.ne_nil_of_length_pos (by omega)
  refine ⟨hne, isTidy_of_mem_evenMessages, markerDirectory_of_mem_evenMessages, text, table, sums,
    htext, hlines, fun h => hmisfit (hfit.mp ?_)⟩
  exact (exists_length_iff htable_ne htable hsums).mp h

end Alignment

end MarkerLint.Summary
