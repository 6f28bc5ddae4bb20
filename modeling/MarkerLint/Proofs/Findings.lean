import MarkerLint.Rule.Catalog
import MarkerLint.Proofs.Registration

/-!
# The findings of the catalog

Every finding of a rule names a message of the rule and brings exactly the fields that belong to the
message. A violation therefore tells where it comes from: a marker of the declaration that was read
and whose name the rule understands.
-/

namespace MarkerLint

open Registry

/-- The finding names a message of the rule and brings its fields. -/
structure Finding.Fits (rule : Rule) (f : Finding) : Prop where
  messageId_mem : f.messageId ∈ rule.messageIds
  fields_eq : messageFields.get? f.messageId = some (f.data.map (·.1))

namespace Rule

/-- All findings of the rule on all markers fit. -/
def FindsFitting (rule : Rule) : Prop :=
  ∀ m found, rule.findings m = .ok found → ∀ f ∈ found, f.Fits rule

theorem actionDuration_fits : actionDuration.FindsFitting := by
  intro m found h f hf
  simp only [actionDuration, durationFindings] at h
  split at h
  · cases h
    cases hf
  · split at h
    · cases h
      cases hf
    · next duration _ rank _ =>
        obtain ⟨name, -, hfound⟩ := bind_eq_ok_iff.mp h
        cases hfound
        simp only [rankedDurationFindings, List.mem_append] at hf
        rcases hf with (hf | hf) | hf <;> split at hf <;>
          simp only [List.mem_singleton, List.not_mem_nil] at hf <;> subst hf
        · exact ⟨by simp [actionDuration], rfl⟩
        · exact ⟨by simp [actionDuration], rfl⟩
        · exact ⟨by simp [actionDuration], rfl⟩

theorem missingValidation_fits (name precondition : CodeText) :
    (missingValidation name precondition).Fits behaviorValidation :=
  ⟨by simp [behaviorValidation, missingValidation], rfl⟩

theorem contradiction_fits (name precondition rule : CodeText) :
    (contradiction name precondition rule).Fits behaviorValidation :=
  ⟨by simp [behaviorValidation, contradiction], rfl⟩

theorem behaviorValidation_fits : behaviorValidation.FindsFitting := by
  intro m found h f hf
  simp only [behaviorValidation, validationFindings] at h
  split at h
  · obtain ⟨name, -, hfound⟩ := bind_eq_ok_iff.mp h
    cases hfound
    simp only [preconditionFindings] at hf
    split at hf
    · obtain ⟨precondition, -, rfl⟩ := List.mem_map.mp hf
      exact missingValidation_fits name precondition
    · obtain ⟨precondition, -, hf⟩ := List.mem_flatMap.mp hf
      obtain ⟨rule, -, rfl⟩ := List.mem_map.mp hf
      exact contradiction_fits name precondition rule
  · cases h
    cases hf

theorem initiativeBudget_fits : initiativeBudget.FindsFitting := by
  intro m found h f hf
  obtain ⟨name, -, h⟩ := bind_eq_ok_iff.mp h
  simp only at h
  split at h
  · simp only [breakdownFindings] at h
    split at h
    · obtain ⟨budget, -, h⟩ := bind_eq_ok_iff.mp h
      obtain ⟨total, -, h⟩ := bind_eq_ok_iff.mp h
      cases h
      obtain rfl := List.mem_singleton.mp hf
      exact ⟨by simp [initiativeBudget], rfl⟩
    · cases h
      cases hf
  · cases h
    obtain rfl := List.mem_singleton.mp hf
    exact ⟨by simp [initiativeBudget], rfl⟩
  · split at h
    · obtain ⟨budget, -, h⟩ := bind_eq_ok_iff.mp h
      cases h
      obtain rfl := List.mem_singleton.mp hf
      exact ⟨by simp [initiativeBudget], rfl⟩
    · cases h
      cases hf
  · cases h
    cases hf

theorem dateFindings_fits (name : CodeText) (start finish : String) :
    ∀ f ∈ dateFindings name start finish, f.Fits initiativeTimeline := by
  intro f hf
  simp only [dateFindings] at hf
  split at hf
  · split at hf
    · obtain rfl := List.mem_singleton.mp hf
      exact ⟨by simp [initiativeTimeline], rfl⟩
    · cases hf
  · cases hf

theorem boundsFindings_fits (name : CodeText) (start finish : Datum) :
    ∀ f ∈ boundsFindings name start finish, f.Fits initiativeTimeline := by
  intro f hf
  simp only [boundsFindings] at hf
  split at hf
  · obtain rfl := List.mem_singleton.mp hf
    exact ⟨by simp [initiativeTimeline], rfl⟩
  · split at hf
    · exact dateFindings_fits name _ _ f hf
    · obtain rfl := List.mem_singleton.mp hf
      exact ⟨by simp [initiativeTimeline], rfl⟩

theorem initiativeTimeline_fits : initiativeTimeline.FindsFitting := by
  intro m found h f hf
  obtain ⟨name, -, rfl⟩ := map_eq_ok_iff.mp h
  simp only [timelineFinding] at hf
  split at hf
  · obtain rfl := List.mem_singleton.mp hf
    exact ⟨by simp [initiativeTimeline], rfl⟩
  · split at hf
    · exact boundsFindings_fits name _ _ f hf
    · obtain rfl := List.mem_singleton.mp hf
      exact ⟨by simp [initiativeTimeline], rfl⟩

/-- A rule without checks finds nothing that could fail to fit. -/
theorem withoutChecks_fits (id description : String) (markerNames : List String) :
    (withoutChecks id description markerNames).FindsFitting := by
  intro m found h f hf
  cases h
  cases hf

/-- All findings of the catalog fit. -/
theorem findsFitting_of_mem {rule : Rule} (hr : rule ∈ catalog) : rule.FindsFitting := by
  simp only [catalog, List.mem_cons, List.not_mem_nil, or_false] at hr
  rcases hr with rfl | rfl | rfl | rfl | rfl | rfl | rfl
  · exact actionDuration_fits
  · exact behaviorValidation_fits
  · exact initiativeBudget_fits
  · exact initiativeTimeline_fits
  · exact withoutChecks_fits _ _ _
  · exact withoutChecks_fits _ _ _
  · exact withoutChecks_fits _ _ _

end Rule

/-- The violation is a finding of the rule on a marker that was read. -/
structure Violation.FoundBy (rule : Rule) (markers : List Marker) (v : Violation) : Prop where
  ruleId_eq : v.ruleId = rule.id
  messageId_mem : v.messageId ∈ rule.messageIds
  fields_eq : messageFields.get? v.messageId = some (v.data.map (·.1))
  marker : ∃ m ∈ markers, m.isParseable = true ∧ m.name ∈ rule.markerNames ∧
    v.location = m.location ∧ v.span = m.span
  fix_eq : v.fix = none

namespace Rule

theorem FindsFitting.checkMarker {rule : Rule} (h : rule.FindsFitting) {m : Marker}
    {vs : List Violation} (hc : rule.checkMarker m = .ok vs) (hu : rule.understands m = true)
    {v : Violation} (hv : v ∈ vs) : v.FoundBy rule [m] := by
  obtain ⟨found, hfound, rfl⟩ := map_eq_ok_iff.mp hc
  obtain ⟨f, hf, rfl⟩ := List.mem_map.mp hv
  have hfits := h m found hfound f hf
  simp only [understands, Bool.and_eq_true, List.contains_iff_mem] at hu
  exact ⟨rfl, hfits.messageId_mem, hfits.fields_eq,
    ⟨m, by simp, hu.2, hu.1, rfl, rfl⟩, rfl⟩

/-- Every violation of a check is a finding of its rule. The induction is on the markers: each one
adds the findings on itself, or nothing if the rule does not look at it. -/
theorem FindsFitting.check {rule : Rule} (h : rule.FindsFitting) {markers : List Marker}
    {vs : List Violation} (hc : rule.check markers = .ok vs) :
    ∀ v ∈ vs, v.FoundBy rule markers := by
  induction markers generalizing vs with
  | nil =>
      cases hc
      intro v hv
      cases hv
  | cons m rest ih =>
      have widen {v : Violation} {some : List Marker} (hsub : some ⊆ m :: rest)
          (hv : v.FoundBy rule some) : v.FoundBy rule (m :: rest) := by
        obtain ⟨n, hn, hmarker⟩ := hv.marker
        exact { hv with marker := ⟨n, hsub hn, hmarker⟩ }
      simp only [Rule.check] at hc
      split at hc
      · next hu =>
          obtain ⟨here, hhere, hc⟩ := bind_eq_ok_iff.mp hc
          obtain ⟨others, hothers, hc⟩ := bind_eq_ok_iff.mp hc
          cases hc
          intro v hv
          rcases List.mem_append.mp hv with hv | hv
          · exact widen (by simp) (h.checkMarker hhere hu hv)
          · exact widen (by simp) (ih hothers v hv)
      · intro v hv
        exact widen (by simp) (ih hc v hv)

/-- The check of one marker that has a name of the rule. -/
theorem check_singleton {rule : Rule} {m : Marker} (h : m.name ∈ rule.markerNames) :
    rule.check [m] = if m.isParseable = true then rule.checkMarker m else .ok [] := by
  rw [Rule.check, Rule.check, understands, List.contains_iff_mem.mpr h, Bool.true_and]
  split
  · cases rule.checkMarker m with
    | error fault => rfl
    | ok here => simp
  · rfl

/-- What a rule finds on a marker of its own that was read is what its check gives. -/
theorem check_singleton_of_findings {rule : Rule} {m : Marker} (h : m.name ∈ rule.markerNames)
    (hread : m.isParseable = true) {found : List Finding} (hfound : rule.findings m = .ok found) :
    rule.check [m] = .ok (found.map (rule.violation m)) := by
  rw [check_singleton h, if_pos hread, checkMarker, hfound]
  rfl

/-- A rule looks at none of the markers that could not be read. -/
theorem check_of_not_parseable (rule : Rule) {markers : List Marker}
    (h : ∀ m ∈ markers, m.isParseable = false) : rule.check markers = .ok [] := by
  induction markers with
  | nil => rfl
  | cons m rest ih =>
      rw [Rule.check, if_neg (by simp [understands, h m (by simp)])]
      exact ih fun n hn => h n (List.mem_cons_of_mem _ hn)

end Rule

end MarkerLint
