import Mathlib.Data.List.Dedup
import MarkerLint.Proofs.Elementwise
import MarkerLint.Proofs.ExitStatus

/-!
# The counts of an audit

The report of an audit has one block for each code, the most frequent code first, and a last line with
two numbers. The second one is the number of codes. The first one is the number of different pairs of
a code and a place: reports of one code at one place count once, however many lines they are. It is
therefore the number of reports exactly if no two of them agree in both.
-/

namespace MarkerLint.Audit

/-- What a report is counted as: its code and its place. -/
def Report.key (r : Report) : String × String :=
  (r.code, r.location)

/-- The pairs of a code and a place that results list. -/
def keysOf (results : List Result) : List (String × String) :=
  results.flatMap fun g => g.locations.map fun location => (g.code, location)

section Counting

variable {reports : List Report} {results : List Result}

/-- The total counts the listed pairs. -/
theorem total_eq_length_keysOf (results : List Result) :
    total results = (keysOf results).length := by
  have hfold (n : Nat) :
      results.foldl (fun n r => n + r.locations.length) n = n + (keysOf results).length := by
    induction results generalizing n with
    | nil => rfl
    | cons g rest ih =>
        have hcons : (keysOf (g :: rest)).length = g.locations.length + (keysOf rest).length := by
          simp [keysOf]
        rw [List.foldl_cons, ih, hcons, Nat.add_assoc]
  rw [total, hfold, Nat.zero_add]

/-- Groups list the pairs that their reports have. -/
theorem IsGroupingOf.mem_keysOf (h : IsGroupingOf reports results) {key : String × String} :
    key ∈ keysOf results ↔ key ∈ reports.map Report.key := by
  simp only [keysOf, List.mem_flatMap, List.mem_map]
  constructor
  · rintro ⟨g, hg, location, hlocation, rfl⟩
    obtain ⟨r, hr, rfl⟩ := ((h.isGroup g hg).mem_locations location).mp hlocation
    obtain ⟨hmem, hcode⟩ := mem_withCode.mp hr
    exact ⟨r, hmem, congrArg (·, r.location) hcode⟩
  · rintro ⟨r, hr, rfl⟩
    obtain ⟨g, hg, hcode⟩ := List.mem_map.mp ((h.mem_codes r.code).mpr ⟨r, hr, rfl⟩)
    refine ⟨g, hg, r.location, ?_, congrArg (·, r.location) hcode⟩
    exact ((h.isGroup g hg).mem_locations r.location).mpr
      ⟨r, mem_withCode.mpr ⟨hr, hcode.symm⟩, rfl⟩

theorem IsGroupingOf.nodup_codes (h : IsGroupingOf reports results) :
    (results.map Result.code).Nodup :=
  h.ascending.imp String.ne_of_lt

/-- No pair is listed twice: the codes of groups differ, and so do the places of one group. -/
theorem IsGroupingOf.nodup_keysOf (h : IsGroupingOf reports results) : (keysOf results).Nodup := by
  rw [keysOf, List.nodup_flatMap]
  constructor
  · intro g hg
    apply List.Nodup.map (fun _ _ heq => (Prod.mk.inj heq).2)
    exact (h.isGroup g hg).ascending.imp String.ne_of_lt
  · apply (List.pairwise_map.mp h.nodup_codes).imp
    intro a b hne key ha hb
    obtain ⟨_, -, rfl⟩ := List.mem_map.mp ha
    obtain ⟨_, -, heq⟩ := List.mem_map.mp hb
    exact hne (Prod.mk.inj heq).1.symm

/-- The total of groups is the number of different pairs of a code and a place. -/
theorem IsGroupingOf.total_eq (h : IsGroupingOf reports results) :
    total results = (reports.map Report.key).dedup.length := by
  rw [total_eq_length_keysOf]
  apply List.Perm.length_eq
  apply (List.perm_ext_iff_of_nodup h.nodup_keysOf (List.nodup_dedup _)).mpr
  intro key
  rw [h.mem_keysOf, List.mem_dedup]

/-- There are as many groups as different codes. -/
theorem IsGroupingOf.length_eq (h : IsGroupingOf reports results) :
    results.length = (reports.map Report.code).dedup.length := by
  rw [← List.length_map (f := Result.code)]
  apply List.Perm.length_eq
  apply (List.perm_ext_iff_of_nodup h.nodup_codes (List.nodup_dedup _)).mpr
  intro code
  rw [h.mem_codes, List.mem_dedup, List.mem_map]

/-- There are as many reports as lines that are one. -/
theorem length_reportsIn (output : String) :
    (reportsIn output).length =
      (Text.lines output.toList).countP fun line => decide (IsReportLine line) := by
  rw [reportsIn, List.length_filterMap_eq_countP]
  apply List.countP_congr
  intro line _
  rw [isSome_read?_iff, decide_eq_true_iff]

/-- Different reports are as many as the reports exactly if no two of them have the same key. -/
theorem length_dedup_eq_iff {α : Type} [DecidableEq α] {as : List α} :
    as.dedup.length = as.length ↔ as.Nodup := by
  constructor
  · intro h
    rw [← (List.dedup_sublist as).eq_of_length h]
    exact List.nodup_dedup as
  · intro h
    rw [h.dedup]

end Counting

section Ranking

/-- The first result stands before the second in the report: it has more places, or as many and a
smaller code. -/
def Result.Outranks (a b : Result) : Prop :=
  b.locations.length < a.locations.length ∨
    (a.locations.length = b.locations.length ∧ a.code < b.code)

theorem precedes_iff {a b : Result} : precedes a b = true ↔
    b.locations.length < a.locations.length ∨
      (a.locations.length = b.locations.length ∧ a.code ≤ b.code) := by
  simp [precedes]

theorem precedes_trans (a b c : Result) (hab : precedes a b = true) (hbc : precedes b c = true) :
    precedes a c = true := by
  rw [precedes_iff] at *
  rcases hab with hab | ⟨hab, hcodes⟩
  · left
    omega
  · rcases hbc with hbc | ⟨hbc, hcodes'⟩
    · left
      omega
    · right
      exact ⟨hab.trans hbc, String.le_trans hcodes hcodes'⟩

theorem precedes_total (a b : Result) : (precedes a b || precedes b a) = true := by
  rw [Bool.or_eq_true, precedes_iff, precedes_iff]
  rcases Nat.lt_trichotomy a.locations.length b.locations.length with h | h | h
  · exact .inr (.inl h)
  · rcases String.le_total a.code b.code with hcodes | hcodes
    · exact .inl (.inr ⟨h, hcodes⟩)
    · exact .inr (.inr ⟨h.symm, hcodes⟩)
  · exact .inl (.inl h)

/-- Results with different codes are put in order of rank. -/
theorem pairwise_outranks_mergeSort {results : List Result}
    (h : (results.map Result.code).Nodup) :
    (results.mergeSort precedes).Pairwise Result.Outranks := by
  have hsorted := List.pairwise_mergeSort precedes_trans precedes_total results
  have hcodes : ((results.mergeSort precedes).map Result.code).Nodup :=
    ((List.mergeSort_perm results precedes).map Result.code).nodup_iff.mpr h
  apply hsorted.imp₂ ?_ (List.pairwise_map.mp hcodes)
  intro a b hab hne
  rcases precedes_iff.mp hab with hmore | ⟨hequal, hle⟩
  · exact .inl hmore
  · refine .inr ⟨hequal, String.not_le.mp fun hge => ?_⟩
    exact hne (String.le_antisymm hle hge)

/-- The results are the groups of the reports, one for each code, in order of rank. -/
structure IsRankingOf (reports : List Report) (results : List Result) : Prop where
  ranked : results.Pairwise Result.Outranks
  nodup_codes : (results.map Result.code).Nodup
  mem_codes : ∀ code, code ∈ results.map Result.code ↔ ∃ r ∈ reports, r.code = code
  isGroup : ∀ g ∈ results, g.IsGroupOf reports

theorem IsGroupingOf.isRankingOf_mergeSort {reports : List Report} {results : List Result}
    (h : IsGroupingOf reports results) : IsRankingOf reports (results.mergeSort precedes) := by
  have hperm := List.mergeSort_perm results precedes
  constructor
  · exact pairwise_outranks_mergeSort h.nodup_codes
  · exact (hperm.map Result.code).nodup_iff.mpr h.nodup_codes
  · intro code
    rw [(hperm.map Result.code).mem_iff]
    exact h.mem_codes code
  · intro g hg
    exact h.isGroup g (hperm.mem_iff.mp hg)

end Ranking

section Printing

variable {output : String} {g : Result}

/-- The last line of a report: so many findings under so many codes. -/
def closingLine (findings codes : Nat) : String :=
  toString findings ++ " Aabha model inconsistencies across " ++ toString codes ++ " message ids."

theorem linesText_append (before after : List String) :
    linesText (before ++ after) = linesText before ++ linesText after := by
  rw [linesText, List.map_append, String.join_append]
  rfl

theorem linesText_singleton {line : String} (h : Text.escapeMark ∉ line.toList) :
    linesText [line] = line ++ "\n" := by
  simp [linesText, Text.dropEscapes_of_notMem h]

theorem escapeMark_notMem_toString (n : Nat) : Text.escapeMark ∉ (toString n).toList := by
  intro hmem
  have hdigit := Decimal.isAsciiDigit_of_mem_toDigits (Nat.toList_repr ▸ hmem)
  exact absurd hdigit (by decide)

/-- The last line is printed as it is: no escape begins in it. -/
theorem linesText_closingLine (findings codes : Nat) :
    linesText [closingLine findings codes] = closingLine findings codes ++ "\n" := by
  apply linesText_singleton
  simp only [closingLine, String.toList_append, List.mem_append, not_or]
  exact ⟨⟨⟨escapeMark_notMem_toString findings, by decide⟩, escapeMark_notMem_toString codes⟩,
    by decide⟩

theorem IsCode.escapeMark_notMem {cs : List Char} (h : IsCode cs) : Text.escapeMark ∉ cs := by
  obtain ⟨letter, digits, rfl, hletter, -, hdigits⟩ := h
  rw [List.mem_cons, not_or]
  constructor
  · rintro rfl
    exact absurd hletter (by decide)
  · exact fun hmem => absurd (hdigits _ hmem) (by decide)

/-- The printed block is about the result: under an empty line it has a line with the code, the
symbol and the number of places, then the text, the places, and what to do about it. -/
def Result.IsPrintedAs (g : Result) (printed : String) : Prop :=
  ∃ instructions, Guidance.packaged.instructions g.guidanceName = .ok instructions ∧
    printed =
      "\n" ++ (g.code ++ " (" ++ g.symbol ++ ") x" ++ toString g.locations.length ++ "\n") ++
        linesText (["  " ++ g.message] ++ g.locations.map ("    " ++ ·) ++ ["  Fix: " ++ instructions])

/-- The code and the symbol of a result are those of a report, and so hold no escape. -/
theorem IsRankingOf.title_eq {results : List Result}
    (h : IsRankingOf (reportsIn output) results) (hg : g ∈ results) :
    g.title = g.code ++ " (" ++ g.symbol ++ ")" ∧ Text.escapeMark ∉ g.title.toList := by
  obtain ⟨r, hlast, -, hsymbol⟩ := (h.isGroup g hg).last
  obtain ⟨hr, hcode⟩ := mem_withCode.mp (List.mem_of_getLast? hlast)
  obtain ⟨line, -, hread⟩ := List.mem_filterMap.mp hr
  have hwell := (isWellFormed_of_read? hread).1
  have hgiven : g.symbol.isEmpty = false := by
    rw [hsymbol, Bool.eq_false_iff]
    exact fun he => hwell.symbol_ne_nil (by rw [String.isEmpty_iff.mp he]; rfl)
  have htitle : g.title = g.code ++ " (" ++ g.symbol ++ ")" := by
    rw [Result.title, hgiven]
    rfl
  have hcodeChars : Text.escapeMark ∉ g.code.toList := by
    rw [← hcode]
    exact hwell.code.escapeMark_notMem
  have hsymbolChars : Text.escapeMark ∉ g.symbol.toList := by
    rw [hsymbol]
    exact fun hmem => absurd (hwell.symbol_chars _ hmem) (by decide +kernel)
  refine ⟨htitle, ?_⟩
  simp only [htitle, String.toList_append, List.mem_append, not_or]
  exact ⟨⟨⟨hcodeChars, by decide⟩, hsymbolChars⟩, by decide⟩

/-- Lines are printed one after the other. -/
theorem linesText_flatten (blocks : List (List String)) :
    linesText blocks.flatten = String.join (blocks.map linesText) := by
  induction blocks with
  | nil => rfl
  | cons block rest ih =>
      rw [List.flatten_cons, linesText_append, ih, List.map_cons, String.join_cons]

/-- The lines about a result of a ranking are printed as a block about it. -/
theorem IsRankingOf.isPrintedAs {results : List Result}
    (h : IsRankingOf (reportsIn output) results) (hg : g ∈ results) {block : List String}
    (hblock : resultLines .packaged g = .ok block) : g.IsPrintedAs (linesText block) := by
  obtain ⟨instructions, hinstructions, hlines⟩ := bind_eq_ok_iff.mp hblock
  obtain rfl := Except.ok.inj hlines
  obtain ⟨htitle, hescape⟩ := h.title_eq hg
  have hheading : Text.escapeMark ∉ (g.title ++ " x" ++ toString g.locations.length).toList := by
    simp only [String.toList_append, List.mem_append, not_or]
    exact ⟨⟨hescape, by decide⟩, escapeMark_notMem_toString _⟩
  refine ⟨instructions, hinstructions, ?_⟩
  change linesText ([""] ++ ([g.title ++ " x" ++ toString g.locations.length] ++
    (["  " ++ g.message] ++ g.locations.map ("    " ++ ·) ++ ["  Fix: " ++ instructions]))) = _
  rw [linesText_append, linesText_append, linesText_singleton (by decide),
    linesText_singleton hheading, htitle]
  simp only [String.append_assoc]
  rfl

/-- Each result has a block of lines of its own. -/
theorem exists_blocks (results : List Result) :
    ∃ blocks, List.Forall₂ (fun g block => resultLines .packaged g = .ok block) results blocks ∧
      resultsLines .packaged results = .ok blocks.flatten := by
  induction results with
  | nil => exact ⟨[], .nil, rfl⟩
  | cons g rest ih =>
      obtain ⟨blocks, hblocks, hlines⟩ := ih
      obtain ⟨text, htext⟩ := Guidance.exists_instructions g.guidanceName
      obtain ⟨block, hblock⟩ : ∃ block, resultLines .packaged g = .ok block := by
        rw [resultLines, htext]
        exact ⟨_, rfl⟩
      refine ⟨block :: blocks, .cons hblock hblocks, ?_⟩
      rw [resultsLines, hblock, hlines]
      rfl

/-- What is printed about an output with reports. -/
theorem report_eq {blocks : List (List String)}
    (h : ∃ line ∈ Text.lines output.toList, IsReportLine line)
    (hlines : resultsLines .packaged ((resultsIn output).mergeSort precedes) = .ok blocks.flatten)
    (status : Int) (errors target : String) :
    Outcome.report .packaged ⟨(ProcessOutcome.ended status output errors).results, target⟩ =
      .ok ⟨String.join (blocks.map linesText) ++
        (closingLine (total (resultsIn output)) (resultsIn output).length ++ "\n"), ""⟩ := by
  rw [ProcessOutcome.results_of_reports h, Outcome.report, isError_resultsIn, Outcome.hasViolations,
    isEmpty_resultsIn_of_reports h, hlines, ← linesText_closingLine, ← linesText_flatten,
    ← linesText_append]
  rfl

end Printing

/-- The report about an output with reports has one block for each code, in order of rank, that
begins with the code, the symbol and the number of places, and a last line with the number of
different codes. The number of findings in it is that of different pairs of a code and a place: it
is the number of lines that are reports exactly if no two of them agree in both. -/
theorem report_counts_lines_iff {output : String}
    (h : ∃ line ∈ Text.lines output.toList, IsReportLine line)
    (status : Int) (errors target : String) :
    ∃ results blocks findings,
      IsRankingOf (reportsIn output) results ∧
      List.Forall₂ (fun g block => resultLines .packaged g = .ok block ∧
        g.IsPrintedAs (linesText block)) results blocks ∧
      Outcome.report .packaged ⟨(ProcessOutcome.ended status output errors).results, target⟩ =
        .ok ⟨String.join (blocks.map linesText) ++
          (closingLine findings ((reportsIn output).map Report.code).dedup.length ++ "\n"), ""⟩ ∧
      findings = ((reportsIn output).map Report.key).dedup.length ∧
      (findings = ((Text.lines output.toList).countP fun line => decide (IsReportLine line)) ↔
        ((reportsIn output).map Report.key).Nodup) := by
  have hgroups : IsGroupingOf (reportsIn output) (resultsIn output) := isGroupingOf_group _
  have hranking := hgroups.isRankingOf_mergeSort
  obtain ⟨blocks, hblocks, hlines⟩ := exists_blocks ((resultsIn output).mergeSort precedes)
  refine ⟨_, blocks, total (resultsIn output), hranking, ?_, ?_, hgroups.total_eq, ?_⟩
  · exact forall₂_imp_of_mem hblocks fun g hg block _ hblock =>
      ⟨hblock, hranking.isPrintedAs hg hblock⟩
  · rw [← hgroups.length_eq]
    exact report_eq h hlines status errors target
  · rw [hgroups.total_eq, ← length_reportsIn, ← List.length_map (f := Report.key)]
    exact length_dedup_eq_iff

theorem exists_isReportLine_iff {output : String} :
    (∃ line ∈ Text.lines output.toList, IsReportLine line) ↔ reportsIn output ≠ [] := by
  rw [← List.length_pos_iff, length_reportsIn, List.countP_pos_iff]
  simp only [decide_eq_true_iff]

/-- Two reports of one code at different places, and one of another code between other lines. -/
def scattered : String :=
  "** a\na:3:0: W5102: x (one)\na:1:0: E5201: y (two)\n\nb:1:0: E5201: z (two)\n"

theorem reportsIn_scattered : reportsIn scattered =
    [⟨"a", "3", "0", "W5102", "x", "one"⟩, ⟨"a", "1", "0", "E5201", "y", "two"⟩,
      ⟨"b", "1", "0", "E5201", "z", "two"⟩] := by
  decide +kernel

theorem report_counts_lines_iff_scattered :
    (∃ line ∈ Text.lines scattered.toList, IsReportLine line) ∧
      ∃ before, Outcome.report .packaged ⟨(ProcessOutcome.ended 6 scattered "").results, "."⟩ =
        .ok ⟨before ++ "3 Aabha model inconsistencies across 2 message ids.\n", ""⟩ := by
  have hreports : ∃ line ∈ Text.lines scattered.toList, IsReportLine line := by
    rw [exists_isReportLine_iff, reportsIn_scattered]
    exact List.cons_ne_nil _ _
  obtain ⟨_, blocks, findings, -, -, hreport, hfindings, -⟩ :=
    report_counts_lines_iff hreports 6 "" "."
  rw [reportsIn_scattered] at hreport hfindings
  rw [hfindings] at hreport
  exact ⟨hreports, String.join (blocks.map linesText), hreport⟩

/-- What the host says about a behaviour with two preconditions and no validation. -/
def twoPreconditions : String :=
  "a:1:0: E5201: p (no-rule)\na:1:0: E5201: q (no-rule)\n"

theorem reportsIn_twoPreconditions : reportsIn twoPreconditions =
    [⟨"a", "1", "0", "E5201", "p", "no-rule"⟩, ⟨"a", "1", "0", "E5201", "q", "no-rule"⟩] := by
  decide +kernel

/-- Two reports of one code at one place count as one finding. -/
theorem samePlace_counted_once :
    ((Text.lines twoPreconditions.toList).countP fun line => decide (IsReportLine line)) = 2 ∧
      ∃ before,
        Outcome.report .packaged ⟨(ProcessOutcome.ended 2 twoPreconditions "").results, "."⟩ =
          .ok ⟨before ++ "1 Aabha model inconsistencies across 1 message ids.\n", ""⟩ := by
  have hgroups : IsGroupingOf (reportsIn twoPreconditions) (resultsIn twoPreconditions) :=
    isGroupingOf_group _
  have hreports : ∃ line ∈ Text.lines twoPreconditions.toList, IsReportLine line := by
    rw [exists_isReportLine_iff, reportsIn_twoPreconditions]
    exact List.cons_ne_nil _ _
  obtain ⟨blocks, -, hblocks⟩ := exists_blocks ((resultsIn twoPreconditions).mergeSort precedes)
  have hreport := report_eq hreports hblocks 2 "" "."
  rw [hgroups.total_eq, hgroups.length_eq, reportsIn_twoPreconditions] at hreport
  refine ⟨?_, String.join (blocks.map linesText), hreport⟩
  rw [← length_reportsIn, reportsIn_twoPreconditions]
  rfl

end MarkerLint.Audit
