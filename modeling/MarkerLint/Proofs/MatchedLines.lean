import Mathlib.Data.List.Sort
import MarkerLint.Proofs.Grouping

/-!
# The lines that results depend on

The results of an output depend on the set of its lines that are reports. The order of the lines,
their repetition and all other lines decide nothing but which report of a code is the last one, and
this one alone gives the result its text and symbol.
-/

namespace MarkerLint.Audit

/-- The lines of an output that are reports. -/
def reportLines (output : String) : Set (List Char) :=
  {line | line ∈ Text.lines output.toList ∧ IsReportLine line}

/-- The line reports a finding with the code at the place. -/
def ReportsAt (line : List Char) (code location : String) : Prop :=
  ∃ r, Report.read? line = some r ∧ r.code = code ∧ r.location = location

/-- The two results have one code and the same places. -/
def Result.SamePlaces (g g' : Result) : Prop :=
  g.code = g'.code ∧ g.locations = g'.locations

/-- The text and the symbol of the result are those of one line of the output: the last one that is
a report with its code. -/
def Result.IsSampledFrom (g : Result) (output : String) : Prop :=
  ∃ before line after r, Text.lines output.toList = before ++ line :: after ∧
    Report.read? line = some r ∧ r.code = g.code ∧ g.message = r.message ∧ g.symbol = r.symbol ∧
    ∀ later ∈ after, ∀ location, ¬ ReportsAt later g.code location

section Samples

/-- The last of the answers along a list is that to the last element with an answer. -/
theorem exists_of_getLast?_filterMap {α β : Type} {f : α → Option β} {as : List α} {b : β}
    (h : (as.filterMap f).getLast? = some b) :
    ∃ before a after, as = before ++ a :: after ∧ f a = some b ∧ ∀ x ∈ after, f x = none := by
  obtain ⟨others, hothers⟩ := List.getLast?_eq_some_iff.mp h
  obtain ⟨first, second, rfl, -, hsecond⟩ := List.filterMap_eq_append_iff.mp hothers
  obtain ⟨skipped, a, after, rfl, -, ha, hafter⟩ := List.filterMap_eq_cons_iff.mp hsecond
  exact ⟨first ++ skipped, a, after, by rw [List.append_assoc], ha,
    List.filterMap_eq_nil_iff.mp hafter⟩

/-- A group of the reports of an output is sampled from the output. -/
theorem Result.IsGroupOf.isSampledFrom {output : String} {g : Result}
    (h : g.IsGroupOf (reportsIn output)) : g.IsSampledFrom output := by
  obtain ⟨r, hlast, hmessage, hsymbol⟩ := h.last
  rw [withCode, reportsIn, List.filter_filterMap] at hlast
  obtain ⟨before, line, after, hlines, hline, hafter⟩ := exists_of_getLast?_filterMap hlast
  obtain ⟨hread, hcode⟩ := Option.filter_eq_some_iff.mp hline
  refine ⟨before, line, after, r, hlines, hread, by simpa using hcode, hmessage, hsymbol, ?_⟩
  rintro later hlater location ⟨other, hother, hsame, -⟩
  have hnone := Option.filter_eq_none_iff.mp (hafter later hlater) other hother
  exact hnone (by simpa using hsame)

end Samples

section Lines

variable {output output' : String} {code location : String}

/-- What some report says is what some line that is a report says. -/
theorem exists_mem_reportsIn_iff {P : Report → Prop} :
    (∃ r ∈ reportsIn output, P r) ↔
      ∃ line ∈ reportLines output, ∃ r, Report.read? line = some r ∧ P r := by
  constructor
  · rintro ⟨r, hr, hP⟩
    obtain ⟨line, hline, hread⟩ := mem_reportsIn.mp hr
    exact ⟨line, ⟨hline, r, isWellFormed_of_read? hread⟩, r, hread, hP⟩
  · rintro ⟨line, ⟨hline, -⟩, r, hread, hP⟩
    exact ⟨r, mem_reportsIn.mpr ⟨line, hline, hread⟩, hP⟩

/-- A result has a place exactly if a line reports its code there. -/
theorem exists_mem_resultsIn_iff :
    (∃ g ∈ resultsIn output, g.code = code ∧ location ∈ g.locations) ↔
      ∃ line ∈ reportLines output, ReportsAt line code location := by
  rw [resultsIn, exists_mem_group, exists_mem_reportsIn_iff]
  rfl

/-- The places of a group are those of the lines that report its code. -/
theorem Result.IsGroupOf.mem_locations_iff {g : Result} (h : g.IsGroupOf (reportsIn output)) :
    location ∈ g.locations ↔ ∃ line ∈ reportLines output, ReportsAt line g.code location := by
  rw [h.mem_locations]
  simp only [mem_withCode, and_assoc]
  exact exists_mem_reportsIn_iff

/-- A group has a place: that of the report it is sampled from. -/
theorem Result.IsGroupOf.locations_ne_nil {reports : List Report} {g : Result}
    (h : g.IsGroupOf reports) : g.locations ≠ [] := by
  obtain ⟨r, hlast, -⟩ := h.last
  exact List.ne_nil_of_mem ((h.mem_locations r.location).mpr
    ⟨r, List.mem_of_getLast? hlast, rfl⟩)

/-- Outputs with the same lines that are reports have the same codes and places. -/
theorem forall₂_samePlaces (h : reportLines output = reportLines output') :
    List.Forall₂ Result.SamePlaces (resultsIn output) (resultsIn output') := by
  have hgroups := isGroupingOf_group (reportsIn output)
  have hgroups' := isGroupingOf_group (reportsIn output')
  have hcodes : (resultsIn output).map Result.code = (resultsIn output').map Result.code := by
    apply hgroups.ascending.eq_of_mem_iff hgroups'.ascending
    intro code
    rw [hgroups.mem_codes, hgroups'.mem_codes, exists_mem_reportsIn_iff, h,
      ← exists_mem_reportsIn_iff]
  rw [← List.forall₂_eq_eq_eq, List.forall₂_map_left_iff, List.forall₂_map_right_iff] at hcodes
  have hleft := (List.forall₂_and_left (p := (· ∈ resultsIn output)) _ _).mpr
    ⟨fun _ hg => hg, hcodes⟩
  have hboth := (List.forall₂_and_left (p := (· ∈ resultsIn output')) _ _).mpr
    ⟨fun _ hg => hg, hleft.flip⟩
  apply hboth.flip.imp
  rintro g g' ⟨hg', hg, hcode⟩
  refine ⟨hcode, ?_⟩
  apply (hgroups.isGroup g hg).ascending.eq_of_mem_iff (hgroups'.isGroup g' hg').ascending
  intro location
  rw [(hgroups.isGroup g hg).mem_locations_iff, (hgroups'.isGroup g' hg').mem_locations_iff, h, hcode]

end Lines

/-- What the results of an output say depends on the lines that are reports, as a set: outputs that
agree in it have the same codes, each with the same places. The codes ascend, and so do the places
of each, of which there is one at least; they are those that the lines report. The text and the
symbol of a result are both those of the last line with its code. -/
theorem results_determined_by_reportLines (output : String) :
    (∀ output', reportLines output = reportLines output' →
      List.Forall₂ Result.SamePlaces (resultsIn output) (resultsIn output')) ∧
    ((resultsIn output).map Result.code).Pairwise (· < ·) ∧
    (∀ code location, (∃ g ∈ resultsIn output, g.code = code ∧ location ∈ g.locations) ↔
      ∃ line ∈ reportLines output, ReportsAt line code location) ∧
    ∀ g ∈ resultsIn output,
      g.locations ≠ [] ∧ g.locations.Pairwise (· < ·) ∧ g.IsSampledFrom output := by
  have hgroups : IsGroupingOf (reportsIn output) (resultsIn output) := isGroupingOf_group _
  refine ⟨fun output' h => forall₂_samePlaces h, hgroups.ascending, ?_, ?_⟩
  · intro code location
    exact exists_mem_resultsIn_iff
  · intro g hg
    have hgroup := hgroups.isGroup g hg
    exact ⟨hgroup.locations_ne_nil, hgroup.ascending, hgroup.isSampledFrom⟩

/-- Three findings, two of them under one code. -/
def ordered : String :=
  "a:1:0: E5201: y (two)\nb:1:0: E5201: z (two)\na:3:0: W5102: x (one)\n"

/-- The same lines in another order, one of them twice, with others between them. -/
def shuffled : String :=
  "b:1:0: E5201: z (two)\n\na:3:0: W5102: x (one)\n** a\na:1:0: E5201: y (two)\nb:1:0: E5201: z (two)"

theorem reportLines_ordered : reportLines ordered = reportLines shuffled := by
  have hmem (output : String) (line : List Char) : line ∈ reportLines output ↔
      line ∈ (Text.lines output.toList).filter fun line => decide (IsReportLine line) := by
    simp [reportLines]
  have hsubset : (∀ line ∈ (Text.lines ordered.toList).filter fun line => decide (IsReportLine line),
        line ∈ (Text.lines shuffled.toList).filter fun line => decide (IsReportLine line)) ∧
      ∀ line ∈ (Text.lines shuffled.toList).filter fun line => decide (IsReportLine line),
        line ∈ (Text.lines ordered.toList).filter fun line => decide (IsReportLine line) := by
    decide +kernel
  ext line
  rw [hmem, hmem]
  exact ⟨hsubset.1 line, hsubset.2 line⟩

/-- The two outputs have the same codes and places, the last line of each code being another one. -/
theorem results_determined_by_reportLines_shuffled :
    reportLines ordered = reportLines shuffled ∧
      List.Forall₂ Result.SamePlaces (resultsIn ordered) (resultsIn shuffled) :=
  ⟨reportLines_ordered, (results_determined_by_reportLines ordered).1 shuffled reportLines_ordered⟩

end MarkerLint.Audit
