import MarkerLint.Proofs.ReportForm

/-!
# The groups of reports

What the audit makes of a list of reports: one result for each code, in ascending order of the codes,
with the places of all reports of the code and the text and symbol of the last one. A report that is
added keeps this, so it holds after any number of them. The results of an output are the groups of
the reports on its lines.
-/

namespace MarkerLint.Audit

/-- The reports with one code, in the order in which they were made. -/
def withCode (code : String) (reports : List Report) : List Report :=
  reports.filter fun r => r.code = code

/-- The result stands for the reports with its code: its places are theirs, in ascending order
without repetition, and its text and symbol are those of the last one. -/
structure Result.IsGroupOf (g : Result) (reports : List Report) : Prop where
  ascending : g.locations.Pairwise (· < ·)
  mem_locations : ∀ location, location ∈ g.locations ↔
    ∃ r ∈ withCode g.code reports, r.location = location
  last : ∃ r, (withCode g.code reports).getLast? = some r ∧
    g.message = r.message ∧ g.symbol = r.symbol

/-- The results are the groups of the reports: one for each code, in ascending order. -/
structure IsGroupingOf (reports : List Report) (results : List Result) : Prop where
  ascending : (results.map Result.code).Pairwise (· < ·)
  mem_codes : ∀ code, code ∈ results.map Result.code ↔ ∃ r ∈ reports, r.code = code
  isGroup : ∀ g ∈ results, g.IsGroupOf reports

theorem mem_withCode {code : String} {reports : List Report} {r : Report} :
    r ∈ withCode code reports ↔ r ∈ reports ∧ r.code = code := by
  simp [withCode]

section Step

variable {reports : List Report} {results : List Result} {g : Result} {r : Report}

theorem withCode_concat_self (reports : List Report) (r : Report) :
    withCode r.code (reports ++ [r]) = withCode r.code reports ++ [r] := by
  simp [withCode]

theorem withCode_concat_of_ne {code : String} (h : code ≠ r.code) :
    withCode code (reports ++ [r]) = withCode code reports := by
  simp [withCode, h.symm]

/-- A property of some report in a list with one more. -/
theorem exists_mem_concat {P : Report → Prop} :
    (∃ old ∈ reports ++ [r], P old) ↔ P r ∨ ∃ old ∈ reports, P old := by
  simp only [List.mem_append, List.mem_singleton, or_and_right, exists_or, exists_eq_left]
  exact or_comm

/-- The codes of the groups are kept as a set of texts. -/
theorem codes_addReport (groups : List Result) (r : Report) :
    (addReport groups r).map Result.code =
      Text.insertAscending r.code (groups.map Result.code) := by
  induction groups with
  | nil => rfl
  | cons g rest ih =>
      rw [addReport, List.map_cons, Text.insertAscending]
      split
      · rfl
      · split
        · rfl
        · rw [List.map_cons, ih]

/-- A group after a report more is an old one with another code, the one with the code of the report,
or the first one with that code. -/
theorem mem_addReport {groups : List Result} (h : (groups.map Result.code).Pairwise (· < ·))
    (hg : g ∈ addReport groups r) :
    (g ∈ groups ∧ g.code ≠ r.code) ∨ (∃ old ∈ groups, old.code = r.code ∧ g = old.withReport r) ∨
      (r.code ∉ groups.map Result.code ∧ g = .ofReport r) := by
  induction groups with
  | nil => exact .inr (.inr ⟨List.not_mem_nil, List.mem_singleton.mp hg⟩)
  | cons first rest ih =>
      rw [List.map_cons, List.pairwise_cons] at h
      obtain ⟨hfirst, hrest⟩ := h
      have hlater {old : Result} (hold : old ∈ rest) : first.code < old.code :=
        hfirst old.code (List.mem_map_of_mem hold)
      rw [addReport] at hg
      split at hg
      · next heq =>
          rcases List.mem_cons.mp hg with rfl | hg
          · exact .inr (.inl ⟨first, List.mem_cons_self, heq.symm, rfl⟩)
          · refine .inl ⟨List.mem_cons_of_mem _ hg, fun hcode => ?_⟩
            exact String.lt_irrefl _ (hcode ▸ heq ▸ hlater hg)
      · next hne =>
          split at hg
          · next hlt =>
              -- The report comes before all groups, so none of them has its code.
              have hbefore {old : Result} (hold : old ∈ first :: rest) : r.code < old.code := by
                rcases List.mem_cons.mp hold with rfl | hold
                · exact hlt
                · exact String.lt_trans hlt (hlater hold)
              rcases List.mem_cons.mp hg with rfl | hg
              · refine .inr (.inr ⟨fun hmem => ?_, rfl⟩)
                obtain ⟨old, hold, hcode⟩ := List.mem_map.mp hmem
                exact String.lt_irrefl _ (hcode ▸ hbefore hold)
              · exact .inl ⟨hg, fun hcode => String.lt_irrefl _ (hcode ▸ hbefore hg)⟩
          · rcases List.mem_cons.mp hg with rfl | hg
            · exact .inl ⟨List.mem_cons_self, Ne.symm hne⟩
            · rcases ih hrest hg with ⟨hold, hcode⟩ | ⟨old, hold, hcode, rfl⟩ | ⟨hnew, rfl⟩
              · exact .inl ⟨List.mem_cons_of_mem _ hold, hcode⟩
              · exact .inr (.inl ⟨old, List.mem_cons_of_mem _ hold, hcode, rfl⟩)
              · refine .inr (.inr ⟨fun hmem => ?_, rfl⟩)
                rcases List.mem_cons.mp hmem with hcode | hmem
                · exact hne hcode
                · exact hnew hmem

/-- A report of another code leaves a group as it is. -/
theorem Result.IsGroupOf.of_ne (h : g.IsGroupOf reports) (hcode : g.code ≠ r.code) :
    g.IsGroupOf (reports ++ [r]) where
  ascending := h.ascending
  mem_locations := by
    rw [withCode_concat_of_ne hcode]
    exact h.mem_locations
  last := by
    rw [withCode_concat_of_ne hcode]
    exact h.last

/-- A group takes in a report of its code. -/
theorem Result.IsGroupOf.withReport (h : g.IsGroupOf reports) (hcode : g.code = r.code) :
    (g.withReport r).IsGroupOf (reports ++ [r]) where
  ascending := Text.pairwise_insertAscending h.ascending
  mem_locations := by
    intro location
    have hplace := h.mem_locations location
    rw [hcode] at hplace
    rw [show (g.withReport r).code = r.code from hcode, withCode_concat_self, exists_mem_concat,
      Result.withReport, Text.mem_insertAscending, hplace, eq_comm]
  last := by
    rw [show (g.withReport r).code = r.code from hcode, withCode_concat_self]
    exact ⟨r, List.getLast?_concat, rfl, rfl⟩

/-- The first report of a code begins a group. -/
theorem Result.isGroupOf_ofReport (h : ∀ old ∈ reports, old.code ≠ r.code) :
    (Result.ofReport r).IsGroupOf (reports ++ [r]) := by
  have hnone : withCode r.code reports = [] := by simpa [withCode] using h
  have hself : withCode (Result.ofReport r).code (reports ++ [r]) = [r] := by
    rw [show (Result.ofReport r).code = r.code from rfl, withCode_concat_self, hnone,
      List.nil_append]
  constructor
  · exact List.pairwise_singleton _ _
  · intro location
    rw [hself]
    simp [Result.ofReport, eq_comm]
  · exact ⟨r, by rw [hself]; rfl, rfl, rfl⟩

/-- Groups of reports stay so with a report more. -/
theorem IsGroupingOf.addReport (h : IsGroupingOf reports results) (r : Report) :
    IsGroupingOf (reports ++ [r]) (Audit.addReport results r) where
  ascending := by
    rw [codes_addReport]
    exact Text.pairwise_insertAscending h.ascending
  mem_codes := by
    intro code
    rw [codes_addReport, Text.mem_insertAscending, h.mem_codes, exists_mem_concat, eq_comm]
  isGroup := by
    intro g hg
    rcases mem_addReport h.ascending hg with ⟨hold, hcode⟩ | ⟨old, hold, hcode, rfl⟩ | ⟨hnew, rfl⟩
    · exact (h.isGroup g hold).of_ne hcode
    · exact (h.isGroup old hold).withReport hcode
    · refine Result.isGroupOf_ofReport fun old hold hcode => hnew ?_
      exact (h.mem_codes r.code).mpr ⟨old, hold, hcode⟩

end Step

/-- The groups of reports, whatever they are. -/
theorem isGroupingOf_group (reports : List Report) : IsGroupingOf reports (group reports) := by
  have hfold (earlier : List Report) (results : List Result) (h : IsGroupingOf earlier results) :
      IsGroupingOf (earlier ++ reports) (reports.foldl addReport results) := by
    induction reports generalizing earlier results with
    | nil => rwa [List.append_nil]
    | cons r rest ih =>
        rw [List.foldl_cons, ← List.singleton_append, ← List.append_assoc]
        exact ih (earlier ++ [r]) (addReport results r) (h.addReport r)
  exact hfold [] [] ⟨List.Pairwise.nil, by simp, by simp⟩

/-- A code has a place among the groups exactly if some report says so. -/
theorem exists_mem_group {reports : List Report} {code location : String} :
    (∃ g ∈ group reports, g.code = code ∧ location ∈ g.locations) ↔
      ∃ r ∈ reports, r.code = code ∧ r.location = location := by
  have hgroups := isGroupingOf_group reports
  constructor
  · rintro ⟨g, hg, rfl, hlocation⟩
    obtain ⟨r, hr, hplace⟩ := ((hgroups.isGroup g hg).mem_locations location).mp hlocation
    obtain ⟨hmem, hcode⟩ := mem_withCode.mp hr
    exact ⟨r, hmem, hcode, hplace⟩
  · rintro ⟨r, hr, rfl, hplace⟩
    obtain ⟨g, hg, hcode⟩ := List.mem_map.mp ((hgroups.mem_codes r.code).mpr ⟨r, hr, rfl⟩)
    have hmem : r ∈ withCode g.code reports := mem_withCode.mpr ⟨hr, hcode.symm⟩
    exact ⟨g, hg, hcode, ((hgroups.isGroup g hg).mem_locations location).mpr ⟨r, hmem, hplace⟩⟩

section Output

variable {output : String} {g : Result} {r : Report}

/-- A report is read where a line is one. -/
theorem mem_reportsIn :
    r ∈ reportsIn output ↔ ∃ line ∈ Text.lines output.toList, Report.read? line = some r :=
  List.mem_filterMap

/-- There are results exactly if some line is a report. -/
theorem exists_mem_resultsIn :
    (∃ g, g ∈ resultsIn output) ↔ ∃ line ∈ Text.lines output.toList, IsReportLine line := by
  have hgroups := isGroupingOf_group (reportsIn output)
  constructor
  · rintro ⟨g, hg⟩
    obtain ⟨r, hr, -⟩ := (hgroups.mem_codes g.code).mp (List.mem_map_of_mem hg)
    obtain ⟨line, hline, hread⟩ := mem_reportsIn.mp hr
    exact ⟨line, hline, r, isWellFormed_of_read? hread⟩
  · rintro ⟨line, hline, hreport⟩
    obtain ⟨r, hread⟩ := Option.isSome_iff_exists.mp (isSome_read?_iff.mpr hreport)
    have hr : r ∈ reportsIn output := mem_reportsIn.mpr ⟨line, hline, hread⟩
    obtain ⟨g, hg, -⟩ := List.mem_map.mp ((hgroups.mem_codes r.code).mpr ⟨r, hr, rfl⟩)
    exact ⟨g, hg⟩

theorem isEmpty_resultsIn_iff :
    (resultsIn output).isEmpty = true ↔ ∀ line ∈ Text.lines output.toList, ¬ IsReportLine line := by
  rw [List.isEmpty_iff, List.eq_nil_iff_forall_not_mem, ← not_exists, exists_mem_resultsIn]
  simp

/-- The codes of results are codes. -/
theorem isCode_of_mem_resultsIn (hg : g ∈ resultsIn output) : IsCode g.code.toList := by
  have hgroups := isGroupingOf_group (reportsIn output)
  obtain ⟨r, hr, hcode⟩ := (hgroups.mem_codes g.code).mp (List.mem_map_of_mem hg)
  obtain ⟨line, -, hread⟩ := mem_reportsIn.mp hr
  rw [← hcode]
  exact (isWellFormed_of_read? hread).1.code

end Output

end MarkerLint.Audit
