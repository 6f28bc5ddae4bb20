import MarkerLint.Proofs.CheckAnswers
import MarkerLint.Proofs.WrittenFields

/-!
# Fields that are written but not read

A field whose value is left out does not stand in the metadata, and a table all of whose values are
left out stands there as an empty one. Nothing tells the first from a field that is not written, or
the second from a table without entries. The rules on initiatives report what is missing or empty, so
they report it of a timeline and a breakdown that are written in a form that is not read.
-/

namespace MarkerLint

open Source

namespace Rule

/-- The rule reports the message on the marker. -/
def Reports (r : Rule) (m : Marker) (messageId : String) : Prop :=
  ∃ violations, r.check [m] = .ok violations ∧ ∃ v ∈ violations, v.messageId = messageId

/-- One of the findings is the message. -/
def HasMessage (found : List Finding) (messageId : String) : Prop :=
  ∃ f ∈ found, f.messageId = messageId

section Reported

variable {r : Rule} {m : Marker} {f : Finding} {messageId : String} {name : CodeText}

@[simp] theorem not_hasMessage_nil : ¬ HasMessage [] messageId := by
  simp [HasMessage]

@[simp] theorem hasMessage_singleton_iff : HasMessage [f] messageId ↔ f.messageId = messageId := by
  simp [HasMessage]

/-- What a rule reports on a marker of its own is what it finds on it, if the marker was read. -/
theorem reports_iff (hname : m.name ∈ r.markerNames) : r.Reports m messageId ↔
    m.isParseable = true ∧ ∃ found, r.findings m = .ok found ∧ HasMessage found messageId := by
  rw [Reports, check_singleton hname]
  split
  · next hread => simp [hread, checkMarker, map_eq_ok_iff, HasMessage, violation]
  · next hread => simp [hread]

theorem not_hasMessage_dateFindings (start finish : String) :
    ¬ HasMessage (dateFindings name start finish) "missingTimeline" := by
  rw [dateFindings]
  split
  · split <;> simp
  · simp

theorem not_hasMessage_boundsFindings (start finish : Datum) :
    ¬ HasMessage (boundsFindings name start finish) "missingTimeline" := by
  rw [boundsFindings]
  split
  · simp
  · split
    · exact not_hasMessage_dateFindings _ _
    · simp

theorem hasMessage_timelineFinding_iff {timeline : Datum} :
    HasMessage (timelineFinding name timeline) "missingTimeline" ↔ timeline.isBlank = true := by
  rw [timelineFinding.eq_def]
  split
  · next hblank => simp [hblank]
  · next hblank =>
      refine iff_of_false ?_ hblank
      split
      · exact not_hasMessage_boundsFindings _ _
      · simp

/-- The timeline of an initiative is missing if it is blank. -/
theorem reports_missingTimeline_iff (h : m.name = "BusinessInitiative") :
    Reports initiativeTimeline m "missingTimeline" ↔
      m.isParseable = true ∧ HasName m ∧ (m.get "timeline").isBlank = true := by
  have hmem : m.name ∈ initiativeTimeline.markerNames := by simp [initiativeTimeline, h]
  have hname : HasName m ↔ ∃ name, (m.get "name").displayName = .ok name :=
    (Data.isWrittenIff_displayName _).exists_iff.symm
  rw [reports_iff hmem, hname]
  simp [initiativeTimeline, timelineFindings, map_eq_ok_iff, hasMessage_timelineFinding_iff]

theorem not_hasMessage_breakdownFindings {budget : Amount} {breakdown : Table Datum CodeText}
    {found : List Finding} (h : breakdownFindings name budget breakdown = .ok found)
    (hid : messageId ≠ "breakdownMismatch") : ¬ HasMessage found messageId := by
  rw [breakdownFindings] at h
  split at h
  · obtain ⟨budgetText, -, h⟩ := bind_eq_ok_iff.mp h
    obtain ⟨sumText, -, h⟩ := bind_eq_ok_iff.mp h
    cases h
    simpa using hid.symm
  · cases h
    exact not_hasMessage_nil

/-- What is found on a budget: that its breakdown is empty, that it is missing, or nothing but that
the two do not add up. -/
theorem budgetFindings_cases {found : List Finding} (h : budgetFindings m = .ok found) :
    HasName m ∧
      (m.get "budgetBreakdown" = .table [] ∧ HasMessage found "emptyBreakdown" ∧
          ¬ HasMessage found "missingBreakdown" ∨
        (m.get "budgetBreakdown").isBlank = true ∧ HasMessage found "missingBreakdown" ∧
          ¬ HasMessage found "emptyBreakdown" ∧
          (∃ budget, amountOf? (m.get "budget") = some budget ∧ budget.IsWritable) ∨
        ¬ HasMessage found "emptyBreakdown" ∧ ¬ HasMessage found "missingBreakdown") := by
  obtain ⟨name, hname, h⟩ := bind_eq_ok_iff.mp h
  refine ⟨(Data.isWrittenIff_displayName _).exists_iff.mp ⟨name, hname⟩, ?_⟩
  simp only at h
  split at h
  · exact .inr (.inr ⟨not_hasMessage_breakdownFindings h (by decide),
      not_hasMessage_breakdownFindings h (by decide)⟩)
  · next hempty =>
      cases h
      exact .inl ⟨hempty, by simp, by simp⟩
  · next budget hbudget _ _ =>
      split at h
      · next hblank =>
          obtain ⟨text, htext, h⟩ := bind_eq_ok_iff.mp h
          cases h
          have hwritable := (isWrittenIff_amountText budget).exists_iff.mp ⟨text, htext⟩
          exact .inr (.inl ⟨hblank, by simp, by simp, budget, hbudget, hwritable⟩)
      · cases h
        exact .inr (.inr ⟨not_hasMessage_nil, not_hasMessage_nil⟩)
  · cases h
    exact .inr (.inr ⟨not_hasMessage_nil, not_hasMessage_nil⟩)

/-- The breakdown of a budget is empty if it is a table without entries. -/
theorem reports_emptyBreakdown_iff (h : m.name = "BusinessInitiative") :
    Reports initiativeBudget m "emptyBreakdown" ↔
      m.isParseable = true ∧ HasName m ∧ m.get "budgetBreakdown" = .table [] := by
  have hmem : m.name ∈ initiativeBudget.markerNames := by simp [initiativeBudget, h]
  rw [reports_iff hmem, and_congr_right_iff]
  intro _
  constructor
  · rintro ⟨found, hfound, hmessage⟩
    obtain ⟨hname, ⟨hempty, -⟩ | ⟨-, -, hnone, -⟩ | ⟨hnone, -⟩⟩ := budgetFindings_cases hfound
    · exact ⟨hname, hempty⟩
    · exact absurd hmessage hnone
    · exact absurd hmessage hnone
  · rintro ⟨hname, hempty⟩
    obtain ⟨name, hname⟩ := (Data.isWrittenIff_displayName _).1 hname
    refine ⟨[⟨"emptyBreakdown", [("name", name)]⟩], ?_, by simp⟩
    change budgetFindings m = _
    rw [budgetFindings, hname, ok_bind, hempty]
    cases amountOf? (m.get "budget") <;> rfl

/-- The breakdown of a budget is missing if it is blank. -/
theorem reports_missingBreakdown_iff (h : m.name = "BusinessInitiative") :
    Reports initiativeBudget m "missingBreakdown" ↔
      m.isParseable = true ∧ HasName m ∧ (m.get "budgetBreakdown").isBlank = true ∧
        ∃ budget, amountOf? (m.get "budget") = some budget ∧ budget.IsWritable := by
  have hmem : m.name ∈ initiativeBudget.markerNames := by simp [initiativeBudget, h]
  rw [reports_iff hmem, and_congr_right_iff]
  intro _
  constructor
  · rintro ⟨found, hfound, hmessage⟩
    obtain ⟨hname, ⟨-, -, hnone⟩ | ⟨hblank, -, -, hbudget⟩ | ⟨-, hnone⟩⟩ :=
      budgetFindings_cases hfound
    · exact absurd hmessage hnone
    · exact ⟨hname, hblank, hbudget⟩
    · exact absurd hmessage hnone
  · rintro ⟨hname, hblank, budget, hbudget, hwritable⟩
    obtain ⟨name, hname⟩ := (Data.isWrittenIff_displayName _).1 hname
    obtain ⟨text, htext⟩ := (isWrittenIff_amountText budget).1 hwritable
    refine ⟨[⟨"missingBreakdown", [("name", name), ("budget", text)]⟩], ?_, by simp⟩
    change budgetFindings m = _
    rw [budgetFindings, hname, ok_bind, hbudget]
    dsimp only
    split
    · next hbreakdown => rw [hbreakdown] at hblank; cases hblank
    · next hbreakdown => rw [hbreakdown] at hblank; cases hblank
    · next other hother _ _ =>
        obtain rfl := Option.some.inj hother
        rw [if_pos hblank, htext]
        rfl
    · next hother _ => cases hother

end Reported

end Rule

section Unread

variable {path : String} {decorator t b : Expr} {m : Marker}

/-- A field of a marker that was read is the last value that is read among those written under it. -/
theorem get_eq_of_isParseable (hm : Marker.ofDecorator? path decorator = some m)
    (hread : m.isParseable = true) (k : String) :
    m.get k = (lastRead? (decorator.fieldValues k)).getD .null := by
  obtain ⟨name, -, rfl⟩ := Option.map_eq_some_iff.mp hm
  rw [Marker.get, Marker.getD, get?_of_readArguments (Marker.isParseable_iff.mp hread)]

theorem get_eq_null_of_leftOut {k : String} {e : Expr}
    (hm : Marker.ofDecorator? path decorator = some m) (hread : m.isParseable = true)
    (hk : decorator.fieldValues k = [e]) (he : literal? e = .ok none) : m.get k = .null := by
  rw [get_eq_of_isParseable hm hread, hk, lastRead?_cons, Expr.value?_of_literal? he]
  rfl

/-- Values that are left out leave the table as it is. -/
theorem literalEntries_eq_of_leftOut {entries : List (Option Expr × Expr)}
    {t t' : Table Datum CodeText} (hout : ∀ entry ∈ entries, literal? entry.2 = .ok none)
    (h : literalEntries t entries = .ok t') : t' = t := by
  induction entries with
  | nil =>
      rw [literalEntries] at h
      cases h
      rfl
  | cons entry rest ih =>
      rw [List.forall_mem_cons] at hout
      rcases literalEntries_cons_cases h with ⟨_, _, v, -, -, hv, -⟩ | ⟨-, h⟩
      · cases hv.symm.trans hout.1
      · exact ih hout.2 h

/-- A table that was read and all of whose values are left out is read as an empty one. -/
theorem get_eq_of_entries_leftOut {k : String} {s : Span} {entries : List (Option Expr × Expr)}
    (hm : Marker.ofDecorator? path decorator = some m) (hread : m.isParseable = true)
    (hk : decorator.fieldValues k = [.dict s entries])
    (hout : ∀ entry ∈ entries, literal? entry.2 = .ok none) : m.get k = .table [] := by
  obtain ⟨name, -, rfl⟩ := Option.map_eq_some_iff.mp hm
  obtain ⟨value, hvalue⟩ := exists_literal?_of_mem_fieldValues (Marker.isParseable_iff.mp hread)
    (hk ▸ List.mem_singleton_self _)
  obtain ⟨t, ht⟩ := exists_literal?_dict_iff.mp ⟨value, hvalue⟩
  obtain rfl := literalEntries_eq_of_leftOut hout ht
  have hempty : literal? (.dict s entries) = .ok (some (.table [])) := by
    rw [literal?, ht]
    rfl
  rw [get_eq_of_isParseable hm hread, hk, lastRead?_cons, Expr.value?_of_literal? hempty]
  rfl

/-- On an initiative with one timeline and one breakdown that are left out, and on one whose
breakdown is a table all of whose values are left out, what is written is reported as missing or as
empty, whenever the marker is read and what has to be said of it can be written. -/
theorem unread_fields_reported_iff (hm : Marker.ofDecorator? path decorator = some m)
    (hname : m.name = "BusinessInitiative") (htimeline : decorator.fieldValues "timeline" = [t])
    (hbreakdown : decorator.fieldValues "budgetBreakdown" = [b]) :
    (literal? t = .ok none →
      (Rule.initiativeTimeline.Reports m "missingTimeline" ↔
        m.isParseable = true ∧ Rule.HasName m)) ∧
    (literal? b = .ok none →
      (Rule.initiativeBudget.Reports m "missingBreakdown" ↔
        m.isParseable = true ∧ Rule.HasName m ∧
          ∃ budget, Rule.amountOf? (m.get "budget") = some budget ∧ budget.IsWritable)) ∧
    ∀ s entries, b = .dict s entries → entries ≠ [] →
      (∀ entry ∈ entries, literal? entry.2 = .ok none) →
      (Rule.initiativeBudget.Reports m "emptyBreakdown" ↔
        m.isParseable = true ∧ Rule.HasName m) := by
  refine ⟨fun ht => ?timeline, fun hb => ?missing, fun s entries hb _ hout => ?empty⟩
  case timeline =>
    rw [Rule.reports_missingTimeline_iff hname, and_congr_right_iff]
    intro hread
    rw [get_eq_null_of_leftOut hm hread htimeline ht]
    exact and_iff_left rfl
  case missing =>
    rw [Rule.reports_missingBreakdown_iff hname, and_congr_right_iff]
    intro hread
    rw [get_eq_null_of_leftOut hm hread hbreakdown hb]
    simp [Data.isBlank]
  case empty =>
    subst hb
    rw [Rule.reports_emptyBreakdown_iff hname, and_congr_right_iff]
    intro hread
    exact and_iff_left (get_eq_of_entries_leftOut hm hread hbreakdown hout)

/-- A call, which is left out. -/
def planned : Expr :=
  .call nowhere (.name nowhere "planned") [] []

/-- An initiative with a budget, a timeline and a breakdown of it. -/
def initiativeFields (timeline breakdown : Expr) : List Field :=
  [⟨"budget", nowhere, .constant nowhere (.integer 100)⟩, ⟨"timeline", nowhere, timeline⟩,
   ⟨"budgetBreakdown", nowhere, breakdown⟩]

/-- An initiative whose fields are keyword arguments. -/
def plannedInitiative : Expr :=
  .call nowhere (.name nowhere "BusinessInitiative") []
    ((initiativeFields planned (.dict nowhere
      [(some (.constant nowhere (.text "development")), planned)])).map Field.keyword)

theorem unread_fields_reported_iff_plannedInitiative :
    ∃ m, Marker.ofDecorator? "a.py" plannedInitiative = some m ∧ m.isParseable = true ∧
      literal? planned = .ok none ∧ Rule.initiativeTimeline.Reports m "missingTimeline" ∧
      Rule.initiativeBudget.Reports m "emptyBreakdown" := by
  obtain ⟨m, hm, hread, hname, hnull⟩ : ∃ m,
      Marker.ofDecorator? "a.py" plannedInitiative = some m ∧ m.isParseable = true ∧
        m.name = "BusinessInitiative" ∧ m.get "name" = .null :=
    ⟨_, rfl, rfl, rfl, rfl⟩
  have hwritable : Rule.HasName m := by
    rw [Rule.HasName, hnull]
    exact Data.isWritable_of_not_isGiven rfl
  obtain ⟨htimeline, -, hempty⟩ := unread_fields_reported_iff hm hname
    (t := planned) (b := .dict nowhere [(some (.constant nowhere (.text "development")), planned)])
    rfl rfl
  refine ⟨m, hm, hread, rfl, (htimeline rfl).mpr ⟨hread, hwritable⟩, ?_⟩
  exact (hempty _ _ rfl (List.cons_ne_nil _ _) (by simp [planned, literal?])).mpr ⟨hread, hwritable⟩

/-- A timeline and a breakdown that are written as calls are reported as missing. -/
theorem planned_fields_reported_missing :
    ∃ m, markersOf "a.py" ⟨"C", nowhere, [.call nowhere (.name nowhere "BusinessInitiative")
        [.dict nowhere ((initiativeFields planned planned).map Field.entry)] []]⟩ = [m] ∧
      Rule.initiativeTimeline.Reports m "missingTimeline" ∧
      Rule.initiativeBudget.Reports m "missingBreakdown" :=
  ⟨_, rfl, ⟨_, rfl, _, List.mem_singleton_self _, rfl⟩, ⟨_, rfl, _, List.mem_singleton_self _, rfl⟩⟩

end Unread

end MarkerLint
