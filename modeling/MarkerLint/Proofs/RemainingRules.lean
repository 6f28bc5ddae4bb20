import MarkerLint.Audit.Run
import MarkerLint.Proofs.Accepted
import MarkerLint.Proofs.HostOptions

/-!
# Rules that remain

A rule is left out of an audit by the settings or by a list of ids that comes with it. Both are put
together for the plan of an audit, for its command and for the state of a single rule. Wherever that
is done, the rules that remain are those of the catalog that neither leaves out.
-/

namespace MarkerLint

namespace Configuration

/-- The settings list the rule as a text; anything else in the list leaves out nothing. -/
theorem disables_iff {c : Configuration} {id : String} :
    c.Disables id ↔
      (match c.document.get? "disable" with
        | .ok (some (.list items)) => items.any (·.isText id)
        | _ => false) = true := by
  constructor
  · rintro ⟨items, hget, hid⟩
    rw [hget]
    exact List.any_eq_true.mpr ⟨_, hid, beq_self_eq_true id⟩
  · intro h
    split at h
    · next items hget =>
        obtain ⟨v, hv, htext⟩ := List.any_eq_true.mp h
        cases v with
        | text s =>
            obtain rfl : s = id := beq_iff_eq.mp htext
            exact ⟨items, hget, hv⟩
        | _ => cases htext
    · cases h

instance (c : Configuration) : DecidablePred c.Disables := fun _ =>
  decidable_of_iff _ disables_iff.symm

/-- The rules that neither the settings nor the ids leave out, in the order of the catalog. -/
def leftOn (c : Configuration) (ids : List String) : List String :=
  Rule.ids.filter fun id => id ∉ ids ∧ ¬ c.Disables id

theorem mem_leftOn {c : Configuration} {ids : List String} {id : String} :
    id ∈ c.leftOn ids ↔ id ∈ Rule.ids ∧ id ∉ ids ∧ ¬ c.Disables id := by
  rw [leftOn, List.mem_filter, decide_eq_true_eq]

theorem leftOn_eq_nil_iff {c : Configuration} {ids : List String} :
    c.leftOn ids = [] ↔ ∀ id ∈ Rule.ids, id ∈ ids ∨ c.Disables id := by
  rw [leftOn, List.filter_eq_nil_iff]
  refine forall₂_congr fun id _ => ?_
  rw [decide_eq_true_eq, not_and_not_right, or_iff_not_imp_left]

/-- More ids leave fewer rules, in the same order. -/
theorem leftOn_sublist {c : Configuration} {ids more : List String} (h : ids ⊆ more) :
    (c.leftOn more).Sublist (c.leftOn ids) := by
  refine List.monotone_filter_right _ fun id hid => ?_
  rw [decide_eq_true_eq] at hid ⊢
  exact ⟨fun hmem => hid.1 (h hmem), hid.2⟩

/-- The rules that the settings leave out may as well be among the ids. -/
theorem leftOn_ascending {c : Configuration} {configured : List String}
    (hmem : ∀ id, id ∈ configured ↔ c.Disables id ∧ id ∈ Rule.ids) (ids : List String) :
    c.leftOn (Text.ascending (ids ++ configured)) = c.leftOn ids := by
  refine List.filter_congr fun id hid => ?_
  rw [decide_eq_decide, Text.mem_ascending, List.mem_append, hmem]
  tauto

/-- A rule is enabled exactly if it remains when no ids are given. -/
theorem IsAccepted.isEnabled_eq {c : Configuration} (hc : c.IsAccepted) {id : String}
    (hid : id ∈ Rule.ids) : c.isEnabled id = .ok (decide (id ∈ c.leftOn [])) := by
  obtain ⟨configured, hconfigured, hmem⟩ := hc.exists_disabledRules
  have hstate : (!configured.contains id) = decide (id ∈ c.leftOn []) := by
    simp [mem_leftOn, hmem, hid]
  rw [isEnabled, hconfigured, ok_bind, hstate]

end Configuration

namespace Audit

variable {c : Configuration}

/-- The enabled checkers are those of the rules that are left on. -/
theorem enabledCheckers_eq (hc : c.IsAccepted) (ids : List String) :
    enabledCheckers c ids = .ok ((c.leftOn ids).map Checker.nameOf) := by
  obtain ⟨configured, hconfigured, hmem⟩ := hc.exists_disabledRules
  have hleft : (Rule.ids.filter fun id => !(ids.contains id || configured.contains id)) =
      c.leftOn ids := by
    refine List.filter_congr fun id hid => ?_
    simp [hmem, hid]
  rw [enabledCheckers, hconfigured, ok_bind, hleft]

/-- The plan of an audit has the command for the same path and ids, unless no rule remains. -/
theorem exists_plan_command (hc : c.IsAccepted) (interpreter target : String) (ids : List String) :
    ∃ p arguments, plan c interpreter target ids = .ok p ∧
      command c interpreter target ids = .ok arguments ∧
      p.command? = if c.leftOn ids = [] then none else some arguments := by
  obtain ⟨configured, hconfigured, hmem⟩ := hc.exists_disabledRules
  obtain ⟨parts, hparts⟩ := hc.exists_excludedPaths
  have hleft := Configuration.leftOn_ascending hmem ids
  have hnames := enabledCheckers_eq hc (Text.ascending (ids ++ configured))
  have hcommand := command_eq hnames hparts interpreter target
  rw [hleft] at hnames hcommand
  refine ⟨_, _, by simp only [plan, hconfigured, hnames, hcommand, ok_bind]; rfl,
    command_eq (enabledCheckers_eq hc ids) hparts interpreter target, ?_⟩
  simp only [List.isEmpty_map, List.isEmpty_iff]

end Audit

end MarkerLint
