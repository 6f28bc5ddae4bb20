import MarkerLint.Audit.Terminal
import MarkerLint.Proofs.Registration

/-!
# Instructions of the packaged registry

The packaged registry says what to do about a finding whatever name the finding is looked up under:
the id of a rule, a code, a symbol, or a name that is none of these. An audit is therefore always
reported.
-/

namespace MarkerLint

namespace Guidance

open Registry

theorem exists_answersTo_fields (e : PackagedEntry) (m : PackagedMessage) (name : String) :
    ∃ b, answersTo e.fields m.fields name = .ok b := by
  rw [answersTo, PackagedEntry.messageCode_fields]
  split
  · exact ⟨true, rfl⟩
  · exact ⟨e.code m == name, rfl⟩

theorem exists_anyAnswersTo_messages (e : PackagedEntry) (name : String)
    (messages : List PackagedMessage) :
    ∃ b, anyAnswersTo e.fields name (messages.map fun m => (m.id, .table m.fields)) = .ok b := by
  induction messages with
  | nil => exact ⟨false, rfl⟩
  | cons m rest ih =>
      obtain ⟨b, hb⟩ := exists_answersTo_fields e m name
      rw [List.map_cons, anyAnswersTo, hb]
      cases b with
      | true => exact ⟨true, rfl⟩
      | false => exact ih

/-- The search among packaged entries ends, and finds one of them if it finds anything. -/
theorem exists_findAmong_keyed (name : String) (entries : List PackagedEntry) :
    ∃ found, findAmong name (entries.map PackagedEntry.keyed) = .ok found ∧
      ∀ t, found = some t → ∃ e ∈ entries, t = e.fields := by
  induction entries with
  | nil => exact ⟨none, rfl, by simp⟩
  | cons e rest ih =>
      obtain ⟨later, hlater, hmem⟩ := ih
      have hrest : ∀ t, later = some t → ∃ f ∈ e :: rest, t = f.fields := by
        intro t ht
        obtain ⟨f, hf, rfl⟩ := hmem t ht
        exact ⟨f, List.mem_cons_of_mem e hf, rfl⟩
      obtain ⟨b, hb⟩ := exists_anyAnswersTo_messages e name e.messages
      rw [List.map_cons, PackagedEntry.keyed, findAmong]
      split
      · rw [Data.asTable, ok_bind, PackagedEntry.messagesOf_fields, ok_bind,
          PackagedEntry.messageTable, hb, ok_bind]
        cases b with
        | true => exact ⟨some e.fields, rfl, fun t ht => ⟨e, by simp, (Option.some.inj ht).symm⟩⟩
        | false => exact ⟨later, hlater, hrest⟩
      · exact ⟨later, hlater, hrest⟩

theorem packaged_entries : packaged.entries =
    (fallbackKey, packagedFallback) :: packagedEntries.map PackagedEntry.keyed := rfl

/-- The instructions of the packaged registry are texts. -/
theorem exists_text_of_mem {key : String} {t : Table Value}
    (h : (key, .table t) ∈ packaged.entries) :
    ∃ s, t.get? "manual_instructions" = some (.text s) := by
  rw [packaged_entries, List.mem_cons, List.mem_map] at h
  rcases h with h | ⟨e, -, h⟩
  · obtain rfl := Data.table.inj (Prod.mk.inj h).2
    exact ⟨_, rfl⟩
  · obtain rfl := Data.table.inj (Prod.mk.inj h).2
    exact ⟨e.instructions, rfl⟩

/-- The lookup of a name ends, and the instructions of what it finds are a text. -/
theorem exists_entryFor? (name : String) :
    ∃ found, packaged.entryFor? name = .ok found ∧
      ∀ t, found = some t → ∃ s, t.get? "manual_instructions" = some (.text s) := by
  rw [entryFor?]
  split
  · next t hfound =>
      have hentry : packaged.entry? name = some t := (Option.filter_eq_some_iff.mp hfound).1
      obtain ⟨v, hget, hv⟩ := Option.bind_eq_some_iff.mp hentry
      have hmem := Table.mem_of_get?_eq_some hget
      cases v with
      | table entries =>
          obtain rfl := Option.some.inj hv
          refine ⟨some entries, rfl, fun t ht => ?_⟩
          obtain rfl := Option.some.inj ht
          exact exists_text_of_mem hmem
      | _ => cases hv
  · obtain ⟨found, hfound, hmem⟩ := exists_findAmong_keyed name packagedEntries
    have hfallback : isRuleKey fallbackKey = false := by decide
    have hfind : packaged.find? name = .ok found := by
      rw [find?, packaged_entries, findAmong, hfallback, hfound]
      rfl
    refine ⟨found, hfind, fun t ht => ?_⟩
    obtain ⟨e, he, rfl⟩ := hmem t ht
    exact ⟨e.instructions, rfl⟩

/-- The packaged registry has instructions for every name. -/
theorem exists_instructions (name : String) : ∃ text, packaged.instructions name = .ok text := by
  obtain ⟨found, hfound, htext⟩ := exists_entryFor? name
  rw [instructions, hfound, ok_bind]
  split
  · next v hv =>
      obtain ⟨t, rfl, hgiven⟩ := Option.bind_eq_some_iff.mp hv
      obtain ⟨s, hs⟩ := htext t rfl
      rw [instructionsOf?, hs] at hgiven
      obtain rfl := Option.some.inj (Option.filter_eq_some_iff.mp hgiven).1
      exact ⟨s, rfl⟩
  · exact ⟨_, rfl⟩

end Guidance

namespace Audit

/-- There are lines about any results. -/
theorem exists_resultsLines (results : List Result) :
    ∃ lines, resultsLines .packaged results = .ok lines := by
  induction results with
  | nil => exact ⟨[], rfl⟩
  | cons r rest ih =>
      obtain ⟨text, htext⟩ := Guidance.exists_instructions r.guidanceName
      obtain ⟨lines, hlines⟩ := ih
      rw [resultsLines, resultLines, htext, hlines]
      exact ⟨_, rfl⟩

/-- Every outcome is reported. -/
theorem Outcome.exists_report (o : Outcome) : ∃ p, o.report .packaged = .ok p := by
  obtain ⟨lines, hlines⟩ := exists_resultsLines (o.results.mergeSort precedes)
  rw [Outcome.report, hlines]
  split
  · exact ⟨_, rfl⟩
  · split
    · exact ⟨_, rfl⟩
    · exact ⟨_, rfl⟩

end Audit

end MarkerLint
