import MarkerLint.Proofs.WrittenFields
import MarkerLint.Rule.Catalog

/-!
# Keyword arguments and tables

The fields of a marker can be written as keyword arguments or as one table. Both forms are read into
the same metadata, or both are not read. The rules of the catalog look at nothing else of a marker,
and report where it starts; so they find the same either way, and fail alike.
-/

namespace MarkerLint

open Source

/-- The place at which something starts. -/
def Source.Span.start (s : Span) : Span :=
  ⟨s.line, s.column, none, none⟩

/-- The marker, with its start as its place. -/
def Marker.atStart (m : Marker) : Marker :=
  { m with span := m.span.start }

/-- The violation, with its start as its place. -/
def Violation.atStart (v : Violation) : Violation :=
  { v with span := v.span.start }

/-- A call with fields as keyword arguments. -/
def keywordForm (s : Span) (callee : Expr) (fields : List Field) : Expr :=
  .call s callee [] (fields.map Field.keyword)

/-- A call with fields as one table, which has its own place. -/
def tableForm (s : Span) (callee : Expr) (place : Span) (fields : List Field) : Expr :=
  .call s callee [.dict place (fields.map Field.entry)] []

section Markers

variable {s s' : Span} {callee : Expr} {name : String} {fields : List Field}

theorem locationText_eq_of_start_eq (h : s.start = s'.start) (path : String) :
    locationText path s = locationText path s' := by
  obtain ⟨hline, hcolumn, -⟩ := Span.mk.inj h
  rw [locationText, locationText, hline, hcolumn]

theorem ofDecorator?_of_lastSegment? (path : String) {decorator : Expr}
    (hname : decorator.callee.lastSegment? = some name) (hmem : name ∈ vocabulary) :
    Marker.ofDecorator? path decorator = some
      ⟨name, decorator.span, locationText path decorator.span, readArguments decorator⟩ := by
  rw [Marker.ofDecorator?, markerName?_eq, hname, Option.filter_some,
    if_pos (List.contains_iff_mem.mpr hmem)]
  rfl

/-- The two forms are markers that differ in where they end at most. -/
theorem exists_ofDecorator?_forms (path : String) (place : Span)
    (hname : callee.lastSegment? = some name) (hmem : name ∈ vocabulary) (hne : fields ≠ [])
    (hstart : s.start = s'.start) :
    ∃ m m', Marker.ofDecorator? path (keywordForm s callee fields) = some m ∧
      Marker.ofDecorator? path (tableForm s' callee place fields) = some m' ∧
      m.name = name ∧ m.atStart = m'.atStart := by
  refine ⟨_, _, ofDecorator?_of_lastSegment? path hname hmem,
    ofDecorator?_of_lastSegment? path hname hmem, rfl, ?_⟩
  have hreading := Field.readArguments_map_keyword s s' place callee callee hne
  have hlocation := locationText_eq_of_start_eq hstart path
  simp only [Marker.atStart, keywordForm, tableForm, Expr.span, hreading, hlocation, hstart]

end Markers

namespace Rule

/-- The findings of the rule depend on the metadata of a marker only. -/
def ReadsMetadata (r : Rule) : Prop :=
  ∀ m m' : Marker, m.metadata = m'.metadata → r.findings m = r.findings m'

theorem readsMetadata_of_mem_catalog : ∀ r ∈ catalog, r.ReadsMetadata := by
  simp only [catalog, List.forall_mem_cons]
  refine ⟨?duration, ?validation, ?budget, ?timeline, ?targets, ?scenarios, ?mocks,
    List.forall_mem_nil _⟩
  all_goals
    intro m m' h
    have hget : m.get = m'.get := by
      funext field
      rw [Marker.get, Marker.get, Marker.getD, Marker.getD, h]
  case duration => simp only [actionDuration, durationFindings, rankedDurationFindings, hget]
  case validation => simp only [behaviorValidation, validationFindings, hget]
  case budget => simp only [initiativeBudget, budgetFindings, hget]
  case timeline => simp only [initiativeTimeline, timelineFindings, hget]
  case targets | scenarios | mocks => rfl

/-- A rule that reads metadata checks markers by where they start. -/
theorem ReadsMetadata.check_map_atStart {r : Rule} (h : r.ReadsMetadata) (ms : List Marker) :
    r.check (ms.map Marker.atStart) = List.map Violation.atStart <$> r.check ms := by
  induction ms with
  | nil => rfl
  | cons m rest ih =>
      have hfindings : r.findings m.atStart = r.findings m := h _ _ rfl
      have hunderstands : r.understands m.atStart = r.understands m := rfl
      have hhere : r.checkMarker m.atStart = List.map Violation.atStart <$> r.checkMarker m := by
        rw [checkMarker, checkMarker, hfindings]
        cases r.findings m with
        | error fault => rfl
        | ok found => simp [violation, Violation.atStart, Marker.atStart]
      rw [List.map_cons, check, check, hunderstands, hhere, ih]
      split
      · cases r.checkMarker m with
        | error fault => rfl
        | ok here =>
            cases r.check rest with
            | error fault => rfl
            | ok others => simp
      · rfl

end Rule

section Forms

variable {s s' : Span} {callee : Expr} {name : String} {fields : List Field}

/-- Among the markers of a class one may stand for another that starts at the same place. -/
theorem map_atStart_markersOf {path : String} {e e' : Expr} {m m' : Marker}
    (hm : Marker.ofDecorator? path e = some m) (hm' : Marker.ofDecorator? path e' = some m')
    (h : m.atStart = m'.atStart) (d : Declaration) (before after : List Expr) :
    (markersOf path { d with decorators := before ++ e :: after }).map Marker.atStart =
      (markersOf path { d with decorators := before ++ e' :: after }).map Marker.atStart := by
  rw [markersOf, markersOf, List.filterMap_append, List.filterMap_append,
    List.filterMap_cons_some hm, List.filterMap_cons_some hm', List.map_append, List.map_append,
    List.map_cons, List.map_cons, h]

/-- Fields that are written as keyword arguments are read as the table of them is: the two markers
have the same metadata, in the same order, or neither is read. At the same place, no rule of the
catalog tells one form from the other. -/
theorem keyword_form_eq_table_form (hname : callee.lastSegment? = some name)
    (hmem : name ∈ vocabulary) (hne : fields ≠ []) (hstart : s.start = s'.start) (path : String)
    (place : Span) :
    (∃ m m', Marker.ofDecorator? path (keywordForm s callee fields) = some m ∧
      Marker.ofDecorator? path (tableForm s' callee place fields) = some m' ∧
      m.name = name ∧ m'.name = name ∧ m.location = m'.location ∧
      m.isParseable = m'.isParseable ∧ m.metadata = m'.metadata) ∧
    ∀ rule ∈ Rule.catalog, ∀ (d : Declaration) (before after : List Expr),
      List.map Violation.atStart <$> rule.check (markersOf path
          { d with decorators := before ++ keywordForm s callee fields :: after }) =
        List.map Violation.atStart <$> rule.check (markersOf path
          { d with decorators := before ++ tableForm s' callee place fields :: after }) := by
  obtain ⟨m, m', hm, hm', hmname, hatStart⟩ :=
    exists_ofDecorator?_forms path place hname hmem hne hstart
  constructor
  · obtain ⟨hnames, -, hlocation, hreading⟩ := Marker.mk.inj hatStart
    refine ⟨m, m', hm, hm', hmname, hnames ▸ hmname, hlocation, ?_, ?_⟩
    · rw [Marker.isParseable, Marker.isParseable, hreading]
    · rw [Marker.metadata, Marker.metadata, hreading]
  · intro rule hrule d before after
    have hreads := Rule.readsMetadata_of_mem_catalog rule hrule
    rw [← hreads.check_map_atStart, ← hreads.check_map_atStart,
      map_atStart_markersOf hm hm' hatStart d before after]

/-- The fields of an action, with a name that is written again as a call. -/
def instantAction : List Field :=
  [⟨"name", nowhere, .constant nowhere (.text "Approve")⟩,
   ⟨"name", nowhere, .call nowhere (.name nowhere "title") [] []⟩,
   ⟨"estimatedDuration", nowhere, .constant nowhere (.text "instant")⟩,
   ⟨"automationLevel", nowhere, .constant nowhere (.text "manual")⟩]

/-- These fields as keyword arguments, on one line. -/
def instantKeywords : Expr :=
  keywordForm ⟨some 1, some 1, some 1, some 98⟩ (.name nowhere "Action") instantAction

/-- These fields as a table, on several lines. -/
def instantTable : Expr :=
  tableForm ⟨some 1, some 1, some 5, some 2⟩ (.name nowhere "Action") nowhere instantAction

theorem keyword_form_eq_table_form_instantAction :
    instantAction ≠ [] ∧ "Action" ∈ vocabulary ∧
      instantKeywords.span.start = instantTable.span.start ∧ Rule.actionDuration ∈ Rule.catalog ∧
      ∃ v, v.messageId = "manualActionInstant" ∧ v.data = [("name", ("Approve" : CodeText))] ∧
        Rule.actionDuration.check (markersOf "a.py" ⟨"C", nowhere, [instantKeywords]⟩) =
          .ok [v] ∧
        List.map Violation.atStart <$>
          Rule.actionDuration.check (markersOf "a.py" ⟨"C", nowhere, [instantTable]⟩) =
            .ok [v.atStart] := by
  have hne : instantAction ≠ [] := by simp [instantAction]
  have hname : (Expr.name nowhere "Action").lastSegment? = some "Action" := rfl
  have hmem : "Action" ∈ vocabulary := by decide
  have hstart : instantKeywords.span.start = instantTable.span.start := rfl
  have hrule : Rule.actionDuration ∈ Rule.catalog := List.mem_cons_self
  have hsame := (keyword_form_eq_table_form hname hmem hne hstart "a.py" nowhere).2
    Rule.actionDuration hrule ⟨"C", nowhere, []⟩ [] []
  exact ⟨hne, hmem, hstart, hrule, _, rfl, rfl, rfl, hsame.symm⟩

end Forms

end MarkerLint
