import Mathlib.Data.List.Pairwise
import Mathlib.Order.Basic
import MarkerLint.Proofs.ContradictionVerdict

/-!
# What is reported about preconditions

Without validation rules every precondition is reported, in order. With rules the contradictions are,
each pair of a precondition and a rule at most once: they stand in the order of the preconditions, and
those of one precondition in the order of the rules.
-/

namespace MarkerLint.Rule

open Text Contradiction

/-- The behaviour has these validation rules, and at least one. -/
def HasRules (m : Marker) (rules : List Datum) : Prop :=
  ∃ entries : Table Datum CodeText, m.get "validation" = .table entries ∧
    entries.get? ("rules" : CodeText) = some (.list rules) ∧ rules ≠ []

/-- The pairs of a precondition and a rule that contradict each other, each once with its places, by the
place of the precondition and then by that of the rule. -/
structure ListsContradictions (preconditions rules : List Datum)
    (found : List ((Nat × CodeText) × (Nat × CodeText))) : Prop where
  ascending : (found.map fun c => (c.1.1, c.2.1)).Pairwise (Prod.Lex (· < ·) (· < ·))
  mem_iff : ∀ i p j r, ((i, p), (j, r)) ∈ found ↔
    preconditions[i]? = some (.text p) ∧ rules[j]? = some (.text r) ∧
      contradicts p (normalizeRule r) = true

section Pairs

theorem mem_placedTexts_iff {values : List Datum} {i : Nat} {s : CodeText} :
    (i, s) ∈ placedTexts values ↔ values[i]? = some (.text s) := by
  simp only [placedTexts, List.mem_filterMap, Option.map_eq_some_iff, Data.text?_eq_some_iff]
  constructor
  · rintro ⟨⟨v, k⟩, hv, t, rfl, heq⟩
    obtain ⟨rfl, rfl⟩ := Prod.mk.inj heq
    exact List.mem_zipIdx_iff_getElem?.mp hv
  · intro h
    exact ⟨(.text s, i), List.mem_zipIdx_iff_getElem?.mpr h, s, rfl, rfl⟩

theorem pairwise_placedTexts (values : List Datum) :
    (placedTexts values).Pairwise fun a b => a.1 < b.1 := by
  have hplaces : values.zipIdx.Pairwise fun a b => a.2 < b.2 := by
    apply List.pairwise_map.mp
    rw [List.zipIdx_map_snd]
    exact List.pairwise_lt_range'
  rw [placedTexts, List.pairwise_filterMap]
  apply hplaces.imp
  rintro ⟨v, i⟩ ⟨w, j⟩ hij a ha b hb
  obtain ⟨s, -, rfl⟩ := Option.map_eq_some_iff.mp ha
  obtain ⟨t, -, rfl⟩ := Option.map_eq_some_iff.mp hb
  exact hij

theorem listsContradictions (preconditions rules : List Datum) :
    ListsContradictions preconditions rules (contradictions preconditions rules) where
  ascending := by
    rw [contradictions, List.map_flatMap, List.pairwise_flatMap]
    constructor
    · intro p _
      rw [List.map_map, List.pairwise_map]
      apply ((pairwise_placedTexts rules).filter _).imp
      intro r s hrs
      exact Prod.Lex.right _ hrs
    · apply (pairwise_placedTexts preconditions).imp
      intro p q hpq a ha b hb
      rw [List.map_map, List.mem_map] at ha hb
      obtain ⟨r, -, rfl⟩ := ha
      obtain ⟨s, -, rfl⟩ := hb
      exact Prod.Lex.left _ _ hpq
  mem_iff := by
    intro i p j r
    simp only [contradictions, List.mem_flatMap, List.mem_map, List.mem_filter,
      ← mem_placedTexts_iff]
    constructor
    · rintro ⟨p', hp, r', ⟨hr, hcontra⟩, heq⟩
      obtain ⟨rfl, rfl⟩ := Prod.mk.inj heq
      exact ⟨hp, hr, hcontra⟩
    · rintro ⟨hp, hr, hcontra⟩
      exact ⟨(i, p), hp, (j, r), ⟨hr, hcontra⟩, rfl⟩

end Pairs

section Behaviour

variable {m : Marker} {name : CodeText} {rules : List Datum} {found : List Finding}

theorem validationRules?_eq_some_iff :
    validationRules? (m.get "validation") = some rules ↔ HasRules m rules := by
  rw [validationRules?.eq_def, HasRules]
  split
  · next entries htable =>
      rw [htable]
      split
      · next r rs hrules =>
          constructor
          · rintro ⟨⟩
            exact ⟨entries, rfl, hrules, List.cons_ne_nil r rs⟩
          · rintro ⟨_, ⟨⟩, hother, -⟩
            obtain rfl := Data.list.inj (Option.some.inj (hrules.symm.trans hother))
            rfl
      · next hnone =>
          refine iff_of_false (by simp) ?_
          rintro ⟨_, ⟨⟩, hrules, hne⟩
          obtain ⟨r, rs, rfl⟩ := List.exists_cons_of_ne_nil hne
          exact hnone r rs hrules
  · next hother =>
      refine iff_of_false (by simp) ?_
      rintro ⟨entries, htable, -⟩
      exact hother entries htable

/-- What is found on preconditions, of which there is at least one. -/
theorem validationFindings_eq {preconditions : List Datum}
    (hlist : m.get "preconditions" = .list preconditions) (hne : preconditions ≠ [])
    (hname : (m.get "name").displayName = .ok name) :
    validationFindings m = .ok (preconditionFindings name (textsAmong preconditions)
      (validationRules? (m.get "validation"))) := by
  obtain ⟨p, ps, rfl⟩ := List.exists_cons_of_ne_nil hne
  rw [validationFindings, hlist, hname]
  rfl

theorem validationFindings_of_not_list
    (h : ∀ p ps, m.get "preconditions" ≠ .list (p :: ps)) : validationFindings m = .ok [] := by
  rw [validationFindings]
  split
  · next p ps hlist => exact absurd hlist (h p ps)
  · rfl

/-- The findings on a behaviour are all of one kind. -/
theorem messageId_of_validationFindings (h : validationFindings m = .ok found) :
    (∀ f ∈ found, f.messageId = "missingValidationForPrecondition") ∨
      ∀ f ∈ found, f.messageId = "validationContradictsPrecondition" := by
  rw [validationFindings] at h
  split at h
  · obtain ⟨name, -, h⟩ := bind_eq_ok_iff.mp h
    cases h
    cases validationRules? (m.get "validation") with
    | none =>
        left
        intro f hf
        obtain ⟨p, -, rfl⟩ := List.mem_map.mp hf
        rfl
    | some rules =>
        right
        intro f hf
        rw [preconditionFindings_eq] at hf
        obtain ⟨c, -, rfl⟩ := List.mem_map.mp hf
        rfl
  · cases h
    exact .inl (List.forall_mem_nil _)

theorem name_mem_markerNames (hm : m.name = "Behavior") :
    m.name ∈ behaviorValidation.markerNames := by
  rw [hm]
  exact List.mem_singleton_self _

/-- With validation rules the contradictions are reported. -/
theorem check_of_hasRules {preconditions : List Datum} (hm : m.name = "Behavior")
    (hread : m.isParseable = true) (hname : (m.get "name").displayName = .ok name)
    (hlist : m.get "preconditions" = .list preconditions) (hne : preconditions ≠ [])
    (hrules : HasRules m rules) :
    behaviorValidation.check [m] = .ok ((contradictions preconditions rules).map fun c =>
      behaviorValidation.violation m (contradiction name c.1.2 (normalizeRule c.2.2))) := by
  have hfound := validationFindings_eq hlist hne hname
  rw [validationRules?_eq_some_iff.mpr hrules, preconditionFindings_eq] at hfound
  rw [check_singleton_of_findings (name_mem_markerNames hm) hread hfound, List.map_map]
  rfl

/-- On a behaviour that was read and has a name and preconditions, either every precondition is
reported or, if there are validation rules, every contradiction between the two; on one without
preconditions nothing is. -/
theorem preconditions_reported_exactly (hm : m.name = "Behavior") (hread : m.isParseable = true) :
    (∀ name preconditions, (m.get "name").displayName = .ok name →
      m.get "preconditions" = .list preconditions → preconditions ≠ [] →
        ((∀ rules, ¬ HasRules m rules) →
          behaviorValidation.check [m] = .ok ((textsAmong preconditions).map fun p =>
            behaviorValidation.violation m ⟨"missingValidationForPrecondition",
              [("name", name), ("precondition", trim p)]⟩)) ∧
        ∀ rules, HasRules m rules →
          ∃ found, ListsContradictions preconditions rules found ∧
            behaviorValidation.check [m] = .ok (found.map fun c =>
              behaviorValidation.violation m ⟨"validationContradictsPrecondition",
                [("name", name), ("validationRule", normalizeRule c.2.2),
                 ("precondition", trim c.1.2)]⟩)) ∧
    ((∀ p ps, m.get "preconditions" ≠ .list (p :: ps)) → behaviorValidation.check [m] = .ok []) ∧
    ∀ vs, behaviorValidation.check [m] = .ok vs →
      ¬ ((∃ v ∈ vs, v.messageId = "missingValidationForPrecondition") ∧
        ∃ v ∈ vs, v.messageId = "validationContradictsPrecondition") := by
  have hmem := name_mem_markerNames hm
  refine ⟨?listed, ?other, ?oneKind⟩
  case listed =>
    intro name preconditions hname hlist hne
    constructor
    · intro hnone
      have hrules : validationRules? (m.get "validation") = none :=
        Option.eq_none_iff_forall_ne_some.mpr fun rules h =>
          hnone rules (validationRules?_eq_some_iff.mp h)
      have hfound := validationFindings_eq hlist hne hname
      rw [hrules] at hfound
      rw [check_singleton_of_findings hmem hread hfound, preconditionFindings, List.map_map]
      rfl
    · intro rules hrules
      exact ⟨contradictions preconditions rules, listsContradictions preconditions rules,
        check_of_hasRules hm hread hname hlist hne hrules⟩
  case other =>
    intro hnone
    exact check_singleton_of_findings hmem hread (validationFindings_of_not_list hnone)
  case oneKind =>
    intro vs hvs
    rw [check_singleton hmem, if_pos hread] at hvs
    obtain ⟨found, hfound, rfl⟩ := map_eq_ok_iff.mp hvs
    rintro ⟨⟨v, hv, hmissing⟩, w, hw, hcontradicts⟩
    obtain ⟨f, hf, rfl⟩ := List.mem_map.mp hv
    obtain ⟨g, hg, rfl⟩ := List.mem_map.mp hw
    rcases messageId_of_validationFindings hfound with hkind | hkind
    · exact absurd ((hkind g hg).symm.trans hcontradicts) (by decide)
    · exact absurd ((hkind f hf).symm.trans hmissing) (by decide)

/-- A behaviour with a precondition that stands there twice and with items that are no texts. -/
def repeatingBehavior : Marker :=
  behaviorOf [.text " User is known ", .integer 7, .text " User is known "]
    [.null, .text "User must NOT be unknown "]

theorem preconditions_reported_exactly_repeatingBehavior :
    repeatingBehavior.isParseable = true ∧
      ∃ found : List ((Nat × CodeText) × (Nat × CodeText)),
        ((0, (" User is known " : CodeText)),
          (1, ("User must NOT be unknown " : CodeText))) ∈ found ∧
        ((2, (" User is known " : CodeText)),
          (1, ("User must NOT be unknown " : CodeText))) ∈ found ∧
        behaviorValidation.check [repeatingBehavior] = .ok (found.map fun c =>
          behaviorValidation.violation repeatingBehavior ⟨"validationContradictsPrecondition",
            [("name", "Unknown"), ("validationRule", normalizeRule c.2.2),
             ("precondition", trim c.1.2)]⟩) := by
  have hname : (repeatingBehavior.get "name").displayName = .ok "Unknown" := rfl
  obtain ⟨hlisted, -⟩ := preconditions_reported_exactly (m := repeatingBehavior) rfl rfl
  obtain ⟨-, hrules⟩ := hlisted "Unknown" _ hname rfl (List.cons_ne_nil _ _)
  obtain ⟨found, hfound, hcheck⟩ := hrules _ ⟨_, rfl, rfl, List.cons_ne_nil _ _⟩
  refine ⟨rfl, found, ?_, ?_, hcheck⟩
  · exact (hfound.mem_iff _ _ _ _).mpr ⟨rfl, rfl, by decide⟩
  · exact (hfound.mem_iff _ _ _ _).mpr ⟨rfl, rfl, by decide⟩

end Behaviour

end MarkerLint.Rule
