import MarkerLint.Proofs.Findings
import MarkerLint.Proofs.WrittenDates

/-!
# What is decided about a timeline

A timeline has one of five outcomes. It is missing, it has no start or no end, its dates are not
written as dates, its end comes before its start, or nothing is found. The last two compare texts:
the days stand in the order of their written forms.
-/

namespace MarkerLint.Rule

open Calendar

/-- What stands under a key of a timeline, null if nothing does. -/
def boundOf (key : CodeText) (entries : Table Datum CodeText) : Datum :=
  (entries.get? key).getD .null

/-- The timeline is no table, or its start or its end says nothing. -/
def LacksBounds (timeline : Datum) : Prop :=
  ∀ entries, timeline = .table entries →
    (boundOf "start" entries).isBlank = true ∨ (boundOf "end" entries).isBlank = true

/-- The start and the end of the timeline are these texts, and both are written as dates. -/
structure HasDates (timeline : Datum) (start finish : String) : Prop where
  bounds_eq : ∃ entries : Table Datum CodeText, timeline = .table entries ∧
    boundOf "start" entries = .text start ∧ boundOf "end" entries = .text finish
  start_pattern : HasDatePattern start
  finish_pattern : HasDatePattern finish

/-- The outcomes for a timeline, each with the finding that is its only one. -/
inductive TimelineOutcome (name : CodeText) (timeline : Datum) : List Finding → Prop
  | missing (hblank : timeline.isBlank = true) :
      TimelineOutcome name timeline [⟨"missingTimeline", [("name", name)]⟩]
  | unbounded (hblank : timeline.isBlank = false) (hlacks : LacksBounds timeline) :
      TimelineOutcome name timeline [⟨"invalidTimeline", [("name", name)]⟩]
  | undated (hblank : timeline.isBlank = false) (hbounds : ¬ LacksBounds timeline)
      (hdates : ∀ start finish, ¬ HasDates timeline start finish) :
      TimelineOutcome name timeline [⟨"invalidDateFormat", [("name", name)]⟩]
  | reversed {start finish : String} (hdates : HasDates timeline start finish)
      (hstart : NamesDay start) (hfinish : NamesDay finish) (hbefore : finish < start) :
      TimelineOutcome name timeline
        [⟨"endBeforeStart", [("name", name), ("start", start), ("end", finish)]⟩]
  | accepted {start finish : String} (hdates : HasDates timeline start finish)
      (horder : ¬ NamesDay start ∨ ¬ NamesDay finish ∨ start ≤ finish) :
      TimelineOutcome name timeline []

section Dates

variable {timeline : Datum} {start finish : String}

/-- A text in the form of a date says something. -/
theorem isBlank_of_hasDatePattern {s : String} (h : HasDatePattern s) :
    (Data.text s : Datum).isBlank = false := by
  rw [Data.isBlank, TextLike.isEmpty_codeText, CodeText.isEmpty_ofString, Bool.eq_false_iff]
  intro hempty
  rw [HasDatePattern, String.isEmpty_iff.mp hempty] at h
  cases h

theorem HasDates.isBlank (h : HasDates timeline start finish) : timeline.isBlank = false := by
  obtain ⟨entries, rfl, -⟩ := h.bounds_eq
  rfl

theorem HasDates.not_lacksBounds (h : HasDates timeline start finish) : ¬ LacksBounds timeline := by
  obtain ⟨entries, htimeline, hstart, hfinish⟩ := h.bounds_eq
  intro hlacks
  rcases hlacks entries htimeline with hblank | hblank
  · rw [hstart, isBlank_of_hasDatePattern h.start_pattern] at hblank
    cases hblank
  · rw [hfinish, isBlank_of_hasDatePattern h.finish_pattern] at hblank
    cases hblank

/-- A timeline has one start and one end. -/
theorem HasDates.eq_and_eq {start' finish' : String} (h : HasDates timeline start finish)
    (h' : HasDates timeline start' finish') : start' = start ∧ finish' = finish := by
  obtain ⟨entries, htimeline, hstart, hfinish⟩ := h.bounds_eq
  obtain ⟨entries', htimeline', hstart', hfinish'⟩ := h'.bounds_eq
  obtain rfl := Data.table.inj (htimeline.symm.trans htimeline')
  rw [hstart, Data.text.injEq, CodeText.ofString_inj] at hstart'
  rw [hfinish, Data.text.injEq, CodeText.ofString_inj] at hfinish'
  exact ⟨hstart'.symm, hfinish'.symm⟩

theorem HasDates.not_undated (h : HasDates timeline start finish) :
    ¬ ∀ start finish, ¬ HasDates timeline start finish :=
  fun hnone => hnone start finish h

/-- What is said of some dates of a timeline is said of its dates. -/
theorem HasDates.exists_iff (h : HasDates timeline start finish)
    (p : String → String → Prop) :
    (∃ start' finish', HasDates timeline start' finish' ∧ p start' finish') ↔ p start finish := by
  constructor
  · rintro ⟨start', finish', h', hp⟩
    obtain ⟨rfl, rfl⟩ := h.eq_and_eq h'
    exact hp
  · intro hp
    exact ⟨start, finish, h, hp⟩

theorem dateText?_eq_some_iff {v : Datum} {s : String} :
    dateText? v = some s ↔ v = .text s ∧ HasDatePattern s := by
  rw [dateText?, Option.filter_eq_some_iff, Data.string?_eq_some_iff, hasDateForm_iff]

/-- The day of the end comes before that of the start exactly if its text does. -/
theorem before_iff {s f : Date} (hs : date? start = some s) (hf : date? finish = some f) :
    f.before s = true ↔ finish < start := by
  obtain ⟨hs, hstart⟩ := date?_eq_some_iff.mp hs
  obtain ⟨hf, hfinish⟩ := date?_eq_some_iff.mp hf
  rw [String.lt_iff, hstart, hfinish]
  exact (hf.isWritable.written_lt_written_iff hs.isWritable).symm

theorem timelineOutcome_dateFindings (name : CodeText) (h : HasDates timeline start finish) :
    TimelineOutcome name timeline (dateFindings name start finish) := by
  rw [dateFindings]
  split
  · next s f hs hf =>
      split
      · next hbefore =>
          exact .reversed h (namesDay_iff.mpr ⟨s, hs⟩) (namesDay_iff.mpr ⟨f, hf⟩)
            ((before_iff hs hf).mp hbefore)
      · next hbefore =>
          exact .accepted h (.inr (.inr (String.not_lt.mp fun hlt =>
            hbefore ((before_iff hs hf).mpr hlt))))
  · next hnone =>
      apply TimelineOutcome.accepted h
      by_cases hstart : NamesDay start
      · obtain ⟨s, hs⟩ := namesDay_iff.mp hstart
        refine .inr (.inl fun hfinish => ?_)
        obtain ⟨f, hf⟩ := namesDay_iff.mp hfinish
        exact hnone s f hs hf
      · exact .inl hstart

end Dates

theorem timelineOutcome_boundsFindings (name : CodeText) (entries : Table Datum CodeText) :
    TimelineOutcome name (.table entries)
      (boundsFindings name (boundOf "start" entries) (boundOf "end" entries)) := by
  rw [boundsFindings]
  split
  · next hblank =>
      apply TimelineOutcome.unbounded rfl
      rintro other ⟨⟩
      simpa using hblank
  · next hblank =>
      have hbounds : ¬ LacksBounds (.table entries) := by
        intro hlacks
        exact hblank (by simpa using hlacks entries rfl)
      split
      · next start finish hstart hfinish =>
          obtain ⟨hstart, hstart_pattern⟩ := dateText?_eq_some_iff.mp hstart
          obtain ⟨hfinish, hfinish_pattern⟩ := dateText?_eq_some_iff.mp hfinish
          apply timelineOutcome_dateFindings
          exact ⟨⟨entries, rfl, hstart, hfinish⟩, hstart_pattern, hfinish_pattern⟩
      · next hother =>
          apply TimelineOutcome.undated rfl hbounds
          rintro start finish ⟨⟨_, ⟨⟩, hstart, hfinish⟩, hstart_pattern, hfinish_pattern⟩
          apply hother start finish
          · exact dateText?_eq_some_iff.mpr ⟨hstart, hstart_pattern⟩
          · exact dateText?_eq_some_iff.mpr ⟨hfinish, hfinish_pattern⟩

theorem timelineOutcome_timelineFinding (name : CodeText) (timeline : Datum) :
    TimelineOutcome name timeline (timelineFinding name timeline) := by
  rw [timelineFinding.eq_def]
  split
  · next hblank => exact .missing hblank
  · next hblank =>
      split
      · exact timelineOutcome_boundsFindings name _
      · next hother =>
          apply TimelineOutcome.unbounded (Bool.eq_false_iff.mpr hblank)
          intro entries htable
          exact absurd htable (hother entries)

/-- On an initiative that was read and has a name, one thing at most is found, and which one depends
on the timeline alone. -/
theorem timeline_decided {m : Marker} {name : CodeText} (hm : m.name = "BusinessInitiative")
    (hread : m.isParseable = true) (hname : (m.get "name").displayName = .ok name) :
    ∃ found : List Finding,
      initiativeTimeline.check [m] = .ok (found.map (initiativeTimeline.violation m)) ∧
      found.length ≤ 1 ∧
      (∀ data, ⟨"endBeforeStart", data⟩ ∈ found ↔
        ∃ start finish, HasDates (m.get "timeline") start finish ∧ NamesDay start ∧
          NamesDay finish ∧ finish < start ∧
          data = [("name", name), ("start", (start : CodeText)), ("end", (finish : CodeText))]) ∧
      (found = [] ↔
        ∃ start finish, HasDates (m.get "timeline") start finish ∧
          (¬ NamesDay start ∨ ¬ NamesDay finish ∨ start ≤ finish)) ∧
      (∀ data, ⟨"missingTimeline", data⟩ ∈ found ↔
        (m.get "timeline").isBlank = true ∧ data = [("name", name)]) ∧
      (∀ data, ⟨"invalidTimeline", data⟩ ∈ found ↔
        (m.get "timeline").isBlank = false ∧ LacksBounds (m.get "timeline") ∧
          data = [("name", name)]) ∧
      ∀ data, ⟨"invalidDateFormat", data⟩ ∈ found ↔
        (m.get "timeline").isBlank = false ∧ ¬ LacksBounds (m.get "timeline") ∧
          (∀ start finish, ¬ HasDates (m.get "timeline") start finish) ∧
          data = [("name", name)] := by
  have hcheck : initiativeTimeline.check [m] =
      .ok ((timelineFinding name (m.get "timeline")).map (initiativeTimeline.violation m)) := by
    apply check_singleton_of_findings _ hread
    · change timelineFindings m = _
      rw [timelineFindings, hname]
      rfl
    · rw [hm]
      exact List.mem_singleton_self _
  have houtcome := timelineOutcome_timelineFinding name (m.get "timeline")
  refine ⟨_, hcheck, ?_⟩
  generalize timelineFinding name (m.get "timeline") = found at houtcome
  cases houtcome with
  | missing hblank =>
      have hdates : ∀ start finish, ¬ HasDates (m.get "timeline") start finish := by
        intro start finish h
        cases h.isBlank.symm.trans hblank
      simp [hblank, hdates]
  | unbounded hblank hlacks =>
      have hdates : ∀ start finish, ¬ HasDates (m.get "timeline") start finish :=
        fun start finish h => h.not_lacksBounds hlacks
      simp [hblank, hlacks, hdates]
  | undated hblank hbounds hdates => simp [hblank, hbounds, hdates]
  | @reversed start finish hdates hstart hfinish hbefore =>
      have hreversed : ¬ start ≤ finish := String.not_le.mpr hbefore
      simp only [hdates.exists_iff, hbefore, hreversed, hdates.not_undated]
      simp [hdates.isBlank, hdates.not_lacksBounds, hstart, hfinish]
  | @accepted start finish hdates horder =>
      have hnot (q : Prop) : ¬ (NamesDay start ∧ NamesDay finish ∧ finish < start ∧ q) := by
        rintro ⟨hstart, hfinish, hbefore, -⟩
        rcases horder with h | h | h
        · exact h hstart
        · exact h hfinish
        · exact String.not_lt.mpr h hbefore
      simp only [hdates.exists_iff, hnot, horder, hdates.not_undated]
      simp [hdates.isBlank, hdates.not_lacksBounds]

/-- An initiative that starts on a leap day and ends in the year before. -/
def reversedInitiative : Marker where
  name := "BusinessInitiative"
  span := ⟨some 1, some 1, none, none⟩
  location := "a.py:1:1"
  reading := .metadata
    [("timeline", .table [("start", .text "2024-02-29"), ("end", .text "2023-12-31")])]

theorem timeline_decided_reversedInitiative :
    reversedInitiative.isParseable = true ∧
      (reversedInitiative.get "name").displayName = .ok "Unknown" ∧
      ∃ found : List Finding,
        initiativeTimeline.check [reversedInitiative] =
          .ok (found.map (initiativeTimeline.violation reversedInitiative)) ∧
        ⟨"endBeforeStart", [("name", "Unknown"), ("start", "2024-02-29"), ("end", "2023-12-31")]⟩ ∈
          found := by
  have hname : (reversedInitiative.get "name").displayName = .ok "Unknown" := rfl
  have hdates : HasDates (reversedInitiative.get "timeline") "2024-02-29" "2023-12-31" :=
    ⟨⟨_, rfl, rfl, rfl⟩, hasDateForm_iff.mp rfl, hasDateForm_iff.mp rfl⟩
  obtain ⟨found, hcheck, -, hreversed, -⟩ := timeline_decided rfl rfl hname
  refine ⟨rfl, hname, found, hcheck, (hreversed _).mpr ⟨_, _, hdates, ?_, ?_, ?_, rfl⟩⟩
  · decide
  · decide
  · decide

end MarkerLint.Rule
