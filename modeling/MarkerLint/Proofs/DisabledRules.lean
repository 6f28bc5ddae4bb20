import MarkerLint.Proofs.RemainingRules
import MarkerLint.Proofs.RuleListing

/-!
# Leaving out rules in one way

The command of an audit enables the checkers of the rules that remain and no others, the audit runs
that command, and the listing of the rules shows the same rules as enabled. A longer list of ids to
leave out never enables a checker more.
-/

namespace MarkerLint

namespace Audit

variable {c : Configuration}

/-- The options of the command for a path enable these checkers, all by one argument. -/
def Enables (c : Configuration) (interpreter target : String) (ids names : List String) : Prop :=
  ∃ options, command c interpreter target ids = .ok (hostCall interpreter target ++ options) ∧
    optionItems? enableOption options = some names

theorem Enables.unique {interpreter target : String} {ids names names' : List String}
    (h : Enables c interpreter target ids names) (h' : Enables c interpreter target ids names') :
    names = names' := by
  obtain ⟨options, hcommand, hnames⟩ := h
  obtain ⟨options', hcommand', hnames'⟩ := h'
  have hboth := Except.ok.inj (hcommand.symm.trans hcommand')
  rw [List.append_cancel_left hboth] at hnames
  exact Option.some.inj (hnames.symm.trans hnames')

/-- The names of checkers are read back from between the commas. -/
theorem optionItems?_enable {ids : List String} (hids : ids ⊆ Rule.ids) (parts : List String) :
    optionItems? enableOption (hostOptions (ids.map Checker.nameOf) parts) =
      some (ids.map Checker.nameOf) := by
  have hcatalog : ∀ id ∈ Rule.ids, Checker.nameOf id ≠ "" ∧ ',' ∉ (Checker.nameOf id).toList := by
    decide
  have hne : ∀ s ∈ ids.map Checker.nameOf, s ≠ "" :=
    List.forall_mem_map.mpr fun id hid => (hcatalog id (hids hid)).1
  have hcomma : ∀ s ∈ ids.map Checker.nameOf, ',' ∉ s.toList :=
    List.forall_mem_map.mpr fun id hid => (hcatalog id (hids hid)).2
  rw [optionItems?_of_single (argumentsFor_enable _ parts), commaItems_intercalate hne,
    (flatMap_commaItems_eq_self_iff hne).mpr hcomma]

theorem enables_leftOn (hc : c.IsAccepted) (interpreter target : String) (ids : List String) :
    Enables c interpreter target ids ((c.leftOn ids).map Checker.nameOf) := by
  obtain ⟨parts, hparts⟩ := hc.exists_excludedPaths
  refine ⟨_, command_eq (enabledCheckers_eq hc ids) hparts interpreter target, ?_⟩
  exact optionItems?_enable (fun id hid => (Configuration.mem_leftOn.mp hid).1) parts

theorem nameOf_mem_iff {ids : List String} {id : String} :
    Checker.nameOf id ∈ (c.leftOn ids).map Checker.nameOf ↔ id ∈ c.leftOn ids :=
  List.mem_map_of_injective fun _ _ => (String.append_right_inj "aabha-").mp

end Audit

open Audit in
/-- The checkers that the command for a path enables are those of the rules of the catalog, in its
order, that neither the settings nor the ids leave out. The audit runs that very command, and none
exactly if it would enable no checker. More ids never enable a checker more. The listing of the rules
shows a rule as enabled, and not as disabled, exactly if the command without ids enables its checker.
-/
theorem disabling_agrees {c : Configuration} (hc : c.IsAccepted) (interpreter target : String)
    (ids : List String) :
    ∃ names, Enables c interpreter target ids names ∧
      names = (c.leftOn ids).map Checker.nameOf ∧
      (∃ p arguments, plan c interpreter target ids = .ok p ∧
        command c interpreter target ids = .ok arguments ∧
        p.command? = if names = [] then none else some arguments) ∧
      (∀ more, ids ⊆ more → ∃ fewer, Enables c interpreter target more fewer ∧
        fewer.Sublist names) ∧
      ∃ listed done, Enables c interpreter target [] listed ∧ CommandLine.rules c = .ok done ∧
        ∀ rule ∈ Rule.catalog,
          (CommandLine.ShowsRule done.value.output rule true ↔ Checker.nameOf rule.id ∈ listed) ∧
          (CommandLine.ShowsRule done.value.output rule false ↔
            Checker.nameOf rule.id ∉ listed) := by
  refine ⟨_, enables_leftOn hc interpreter target ids, rfl, ?_, ?_, ?_⟩
  · obtain ⟨p, arguments, hplan, hcommand, hp⟩ := exists_plan_command hc interpreter target ids
    refine ⟨p, arguments, hplan, hcommand, ?_⟩
    simp only [List.map_eq_nil_iff]
    exact hp
  · intro more hmore
    exact ⟨_, enables_leftOn hc interpreter target more,
      (Configuration.leftOn_sublist hmore).map Checker.nameOf⟩
  · obtain ⟨done, hdone, hshows⟩ :=
      CommandLine.exists_rules_showsRule (fun id => decide (id ∈ c.leftOn []))
        fun rule hr => hc.isEnabled_eq (List.mem_map_of_mem hr)
    refine ⟨_, done, enables_leftOn hc interpreter target [], hdone, fun rule hr => ?_⟩
    rw [hshows rule hr, hshows rule hr, nameOf_mem_iff, decide_eq_true_iff,
      decide_eq_false_iff_not]
    exact ⟨Iff.rfl, Iff.rfl⟩

/-- Settings that leave out a rule, an unknown one and a number, and exclude a path with a comma. -/
def untidyEntries : Table Value :=
  [("disable", .list [.text "witness-mock-consistency", .integer 3, .text "no-such-rule"]),
    ("exclude_paths", .list [.text "a,b"])]

/-- The configuration with these settings. -/
def untidySettings : Configuration :=
  ⟨.table untidyEntries, .table []⟩

/-- Ids of two rules, out of order and with one of them repeated, and of none. -/
def untidyIds : List String :=
  ["witness-bdd-completeness", "unknown", "action-duration-realism", "witness-bdd-completeness"]

open Audit CommandLine in
theorem disabling_agrees_untidySettings :
    untidySettings.IsAccepted ∧
      Enables untidySettings "python" "src" untidyIds
        ["aabha-behavior-validation-consistency", "aabha-initiative-budget-breakdown",
          "aabha-initiative-timeline-validation", "aabha-metric-target-alignment"] ∧
      ∃ p arguments done, plan untidySettings "python" "src" untidyIds = .ok p ∧
        command untidySettings "python" "src" untidyIds = .ok arguments ∧
        p.command? = some arguments ∧ rules untidySettings = .ok done ∧
        ShowsRule done.value.output Rule.actionDuration true ∧
        ShowsRule done.value.output Rule.witnessMocks false := by
  have hc : untidySettings.IsAccepted := ⟨untidyEntries, .table [], rfl⟩
  obtain ⟨names, hnames, rfl, ⟨p, arguments, hplan, hcommand, hp⟩, -, listed, done, hlisted, hdone,
    hshows⟩ := disabling_agrees hc "python" "src" untidyIds
  obtain rfl := hlisted.unique (enables_leftOn hc "python" "src" [])
  have hduration : Rule.actionDuration ∈ Rule.catalog := by simp [Rule.catalog]
  have hmocks : Rule.witnessMocks ∈ Rule.catalog := by simp [Rule.catalog]
  refine ⟨hc, hnames, p, arguments, done, hplan, hcommand, hp, hdone, ?_, ?_⟩
  · exact (hshows _ hduration).1.mpr (by decide)
  · exact (hshows _ hmocks).2.mpr (by decide)

end MarkerLint
