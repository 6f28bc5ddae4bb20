import Mathlib.Data.Int.Bitwise
import MarkerLint.CommandLine
import MarkerLint.Proofs.Grouping
import MarkerLint.Proofs.Instructions
import MarkerLint.Proofs.RemainingRules

/-!
# The exit status of a check

The status of a check says what became of it: 2 for a misuse or a failed run, 1 for findings and 0
otherwise. A failed run is among the results as one with a reserved code, which no line of the host
can have. The check always ends, since every outcome is reported.
-/

namespace MarkerLint

namespace Audit

/-- The host reported something: some line of its output is a report. -/
def ProcessOutcome.HasReports : ProcessOutcome → Prop
  | .failed _ => False
  | .ended _ output _ => ∃ line ∈ Text.lines output.toList, IsReportLine line

/-- The run failed: it could not be made, or it reported nothing and the bit of a fatal error or that
of a usage error is set in the two's complement of its status. -/
def ProcessOutcome.HasFailed : ProcessOutcome → Prop
  | .failed _ => True
  | .ended status output _ =>
      (∀ line ∈ Text.lines output.toList, ¬ IsReportLine line) ∧
        (status.testBit 0 = true ∨ status.testBit 5 = true)

theorem isFatal_iff {status : Int} :
    isFatal status = true ↔ status.testBit 0 = true ∨ status.testBit 5 = true := by
  cases status with
  | ofNat n =>
      simp only [isFatal, Int.testBit, Nat.testBit_eq_decide_div_mod_eq, Bool.or_eq_true,
        bne_iff_ne, decide_eq_true_eq, Int.ofNat_eq_natCast]
      omega
  | negSucc n =>
      -- The bits of a negative status are the complements of those of the natural number.
      simp only [isFatal, Int.testBit, Nat.testBit_eq_decide_div_mod_eq, Bool.or_eq_true,
        bne_iff_ne, Bool.not_eq_true', decide_eq_false_iff_not, Int.negSucc_eq]
      omega

/-- No line of the host is taken for a failure: the codes of reports are shorter. -/
theorem code_ne_failureCode {output : String} {g : Result} (hg : g ∈ resultsIn output) :
    g.code ≠ failureCode := by
  intro hfailure
  have hlength := (isCode_of_mem_resultsIn hg).length_eq
  rw [hfailure] at hlength
  exact absurd hlength (by decide)

/-- The results of the host are never taken for a failed run. -/
theorem isError_resultsIn (output target : String) :
    Outcome.isError ⟨resultsIn output, target⟩ = false := by
  rw [Outcome.isError, List.any_eq_false]
  intro g hg hcode
  exact code_ne_failureCode hg (beq_iff_eq.mp hcode)

section Reports

variable {output : String} (h : ∃ line ∈ Text.lines output.toList, IsReportLine line)

include h

theorem isEmpty_resultsIn_of_reports : (resultsIn output).isEmpty = false := by
  rw [List.isEmpty_eq_false_iff_exists_mem]
  exact exists_mem_resultsIn.mpr h

/-- A run with reports has their results, whatever its status. -/
theorem ProcessOutcome.results_of_reports {status : Int} {errors : String} :
    (ProcessOutcome.ended status output errors).results = resultsIn output := by
  rw [ProcessOutcome.results, isEmpty_resultsIn_of_reports h, Bool.false_and]
  rfl

end Reports

/-- A run that has reports has not failed. -/
theorem ProcessOutcome.HasReports.not_hasFailed {p : ProcessOutcome} (h : p.HasReports) :
    ¬ p.HasFailed := by
  cases p with
  | failed cause => exact absurd h id
  | ended status output errors =>
      obtain ⟨line, hline, hreport⟩ := h
      exact fun hfailed => hfailed.1 line hline hreport

/-- A check is planned; it has no command exactly if every rule is left out. -/
theorem exists_plan {c : Configuration} (hc : c.IsAccepted) (interpreter target : String)
    (ids : List String) :
    ∃ p, plan c interpreter target ids = .ok p ∧
      (p.command? = none ↔ ∀ id ∈ Rule.ids, id ∈ ids ∨ c.Disables id) := by
  obtain ⟨p, arguments, hplan, -, hp⟩ := exists_plan_command hc interpreter target ids
  refine ⟨p, hplan, ?_⟩
  rw [hp, ← Configuration.leftOn_eq_nil_iff, ite_eq_left_iff]
  simp only [reduceCtorEq, imp_false, not_not]

theorem Plan.outcome_of_none {p : Plan} (h : p.command? = none) (process : ProcessOutcome) :
    p.outcome process = ⟨[], p.target⟩ := by
  rw [Plan.outcome, h]

theorem Plan.outcome_of_some {p : Plan} {command : List String} (h : p.command? = some command)
    (process : ProcessOutcome) : p.outcome process = ⟨process.results, p.target⟩ := by
  rw [Plan.outcome, h]

end Audit

namespace CommandLine

open Audit

section Status

variable {p : ProcessOutcome} {target : String}

theorem auditStatus_of_hasFailed (h : p.HasFailed) : auditStatus ⟨p.results, target⟩ = 2 := by
  have hresults : ∃ cause, p.results = [failure cause] := by
    cases p with
    | failed cause => exact ⟨cause, rfl⟩
    | ended status output errors =>
        rw [ProcessOutcome.results, isEmpty_resultsIn_iff.mpr h.1, isFatal_iff.mpr h.2]
        exact ⟨_, rfl⟩
  obtain ⟨cause, hcause⟩ := hresults
  rw [hcause]
  rfl

theorem auditStatus_of_hasReports (h : p.HasReports) : auditStatus ⟨p.results, target⟩ = 1 := by
  cases p with
  | failed cause => exact absurd h id
  | ended status output errors =>
      rw [ProcessOutcome.results_of_reports h, auditStatus, isError_resultsIn,
        Outcome.hasViolations, isEmpty_resultsIn_of_reports h]
      rfl

theorem auditStatus_of_neither (hfailed : ¬ p.HasFailed) (hreports : ¬ p.HasReports) :
    auditStatus ⟨p.results, target⟩ = 0 := by
  cases p with
  | failed cause => exact absurd trivial hfailed
  | ended status output errors =>
      have hnone : ∀ line ∈ Text.lines output.toList, ¬ IsReportLine line :=
        fun line hline hreport => hreports ⟨line, hline, hreport⟩
      have hempty : resultsIn output = [] := List.isEmpty_iff.mp (isEmpty_resultsIn_iff.mpr hnone)
      have hstatus : isFatal status = false := by
        rw [← Bool.not_eq_true, isFatal_iff]
        exact fun hbits => hfailed ⟨hnone, hbits⟩
      have hresults : (ProcessOutcome.ended status output errors).results = [] := by
        rw [ProcessOutcome.results, hstatus, Bool.and_false, hempty]
        rfl
      rw [hresults]
      rfl

/-- The status after a run says what became of it. -/
theorem auditStatus_results_iff :
    (auditStatus ⟨p.results, target⟩ = 2 ↔ p.HasFailed) ∧
      (auditStatus ⟨p.results, target⟩ = 1 ↔ p.HasReports) ∧
      (auditStatus ⟨p.results, target⟩ = 0 ↔ ¬ p.HasFailed ∧ ¬ p.HasReports) := by
  by_cases hfailed : p.HasFailed
  · have hreports : ¬ p.HasReports := fun h => h.not_hasFailed hfailed
    simp [auditStatus_of_hasFailed hfailed, hfailed, hreports]
  · by_cases hreports : p.HasReports
    · simp [auditStatus_of_hasReports hreports, hfailed, hreports]
    · simp [auditStatus_of_neither hfailed hreports, hfailed, hreports]

end Status

/-- The exit says what became of the check without the listed rules: an unknown id is refused, nothing
is run where all rules are left out, and otherwise one command is run and its outcome decides. -/
structure Exit.Reflects (e : Exit) (s : Surroundings) (c : Configuration) (ids : List String) :
    Prop where
  unknown : (∃ id ∈ ids, id ∉ Rule.ids) → e.status = 2 ∧ e.commands = []
  idle : (∀ id ∈ ids, id ∈ Rule.ids) → (∀ id ∈ Rule.ids, id ∈ ids ∨ c.Disables id) →
    e.status = 0 ∧ e.commands = []
  ran : (∀ id ∈ ids, id ∈ Rule.ids) → (∃ id ∈ Rule.ids, id ∉ ids ∧ ¬ c.Disables id) →
    ∃ command, e.commands = [command] ∧
      (e.status = 2 ↔ (s.outcomeOf command).HasFailed) ∧
      (e.status = 1 ↔ (s.outcomeOf command).HasReports) ∧
      (e.status = 0 ↔ ¬ (s.outcomeOf command).HasFailed ∧ ¬ (s.outcomeOf command).HasReports)

section Check

variable {s : Surroundings} {c : Configuration}

/-- The ids that are refused are those of no rule. -/
theorem isEmpty_unknown_iff {ids : List String} :
    (Text.ascending (ids.filter fun id => !Rule.ids.contains id)).isEmpty = true ↔
      ∀ id ∈ ids, id ∈ Rule.ids := by
  rw [List.isEmpty_iff, List.eq_nil_iff_forall_not_mem]
  simp [Text.mem_ascending]

/-- An exit that refuses ids. -/
theorem reflects_refusal {ids : List String} (h : ∃ id ∈ ids, id ∉ Rule.ids) (text : String) :
    (refusal text).Reflects s c ids := by
  obtain ⟨id, hid, hunknown⟩ := h
  exact
    { unknown := fun _ => ⟨rfl, rfl⟩
      idle := fun hknown _ => absurd (hknown id hid) hunknown
      ran := fun hknown _ => absurd (hknown id hid) hunknown }

/-- An exit after a plan that was carried out. -/
theorem reflects_plan {ids : List String} (hknown : ∀ id ∈ ids, id ∈ Rule.ids) {p : Plan}
    (hcommand : p.command? = none ↔ ∀ id ∈ Rule.ids, id ∈ ids ∨ c.Disables id) {e : Exit}
    (hcommands : e.commands = p.command?.toList)
    (hstatus : e.status = auditStatus (p.outcome (s.outcomeOf (p.command?.getD [])))) :
    e.Reflects s c ids where
  unknown := fun ⟨id, hid, hunknown⟩ => absurd (hknown id hid) hunknown
  idle := by
    intro _ hidle
    have hnone := hcommand.mpr hidle
    rw [hcommands, hstatus, Plan.outcome_of_none hnone, hnone]
    exact ⟨rfl, rfl⟩
  ran := by
    rintro _ ⟨id, hid, hkept, hon⟩
    cases hp : p.command? with
    | none => exact absurd (hcommand.mp hp id hid) (by simp [hkept, hon])
    | some command =>
        rw [hp, Option.getD_some, Plan.outcome_of_some hp] at hstatus
        refine ⟨command, by rw [hcommands, hp]; rfl, ?_⟩
        rw [hstatus]
        exact auditStatus_results_iff

/-- The check of a path ends, and its exit says what became of it. -/
theorem exists_check (s : Surroundings) (hc : c.IsAccepted) (path : Option String)
    (ids : List String) : ∃ done, check s c path ids = .ok done ∧ done.value.Reflects s c ids := by
  by_cases hknown : ∀ id ∈ ids, id ∈ Rule.ids
  · have hnone := isEmpty_unknown_iff.mpr hknown
    obtain ⟨p, hplan, hcommand⟩ := exists_plan hc s.interpreter (auditTarget s path) ids
    obtain ⟨report, hreport⟩ := (p.outcome (s.outcomeOf (p.command?.getD []))).exists_report
    refine ⟨_, by rw [check, hnone, hplan]; simp only [ok_bind, hreport]; rfl, ?_⟩
    exact reflects_plan hknown hcommand rfl rfl
  · have hunknown : ∃ id ∈ ids, id ∉ Rule.ids := by simpa using hknown
    have hsome := (Bool.not_eq_true _).mp (isEmpty_unknown_iff.not.mpr hknown)
    refine ⟨_, by rw [check, hsome]; rfl, ?_⟩
    exact reflects_refusal hunknown _

end Check

/-- The command line that asks for the check of a path without the listed rules. -/
def checkArguments (target : String) (ids : List String) : List String :=
  "check" :: target :: ids.flatMap fun id => ["--disable", id]

/-- An argument that is no option is kept. -/
theorem commandArguments_of_not_isOption {argument : String} (h : isOption argument = false)
    (knowsDisable : Bool) (rest : List String) :
    commandArguments knowsDisable (argument :: rest) =
      (commandArguments knowsDisable rest).map fun found => (argument :: found.1, found.2) := by
  have hend : (argument == optionEnd) = false := by
    rw [beq_eq_false_iff_ne]
    rintro rfl
    cases h
  rw [commandArguments.eq_def]
  simp [h, hend]

/-- The option that disables a rule takes the next argument, whatever it is. -/
theorem commandArguments_disable (value : String) (rest : List String) :
    commandArguments true ("--disable" :: value :: rest) =
      (commandArguments true rest).map fun found => (found.1, value :: found.2) := by
  have hform : disableForm? "--disable" = some .separate := rfl
  have hoption : isOption "--disable" = true := rfl
  have hend : ("--disable" == optionEnd) = false := rfl
  rw [commandArguments.eq_def]
  simp [hform, hoption, hend]

/-- The command line is understood as it is meant where the path is no option. -/
theorem ofArguments?_checkArguments {target : String} (h : isOption target = false)
    (ids : List String) : Invocation.ofArguments? (checkArguments target ids) =
      some ⟨false, .check (some target) ids⟩ := by
  have hids : commandArguments true (ids.flatMap fun id => ["--disable", id]) = some ([], ids) := by
    induction ids with
    | nil => rfl
    | cons id rest ih =>
        rw [List.flatMap_cons, List.cons_append, List.cons_append, commandArguments_disable,
          List.nil_append, ih]
        rfl
  have harguments : commandArguments true (target :: ids.flatMap fun id => ["--disable", id]) =
      some ([target], ids) := by
    rw [commandArguments_of_not_isOption h, hids]
    rfl
  have hcommand : Command.ofArguments? "check"
      (target :: ids.flatMap fun id => ["--disable", id]) = some (.check (some target) ids) := by
    simp only [Command.ofArguments?.eq_def, beq_self_eq_true, harguments]
  have hprogram : programOptions (checkArguments target ids) =
      some (false, checkArguments target ids) := rfl
  rw [Invocation.ofArguments?, hprogram]
  simp only [checkArguments, Option.bind_eq_bind, Option.bind_some, hcommand]

/-- A whole run that checks a path ends as the check does. -/
theorem exists_run {s : Surroundings} {c : Configuration}
    (hc : (Configuration.ofProject s.files s.directory).value = .ok c) {arguments : List String}
    {verbose : Bool} {path : Option String} {ids : List String}
    (harguments : Invocation.ofArguments? arguments = some ⟨verbose, .check path ids⟩) :
    ∃ e, run s arguments = .ok (.exit e) ∧ e.Reflects s c ids := by
  obtain ⟨done, hdone, hreflects⟩ :=
    exists_check s (Configuration.isAccepted_of_ofProject hc) path ids
  refine ⟨_, by simp only [run, hc, harguments, ok_bind, execute, hdone, map_ok]; rfl, ?_⟩
  exact ⟨hreflects.unknown, hreflects.idle, hreflects.ran⟩

/-- The check of a path that is no option ends with a status that says what became of it, for every
configuration and whatever the host answers. No line of the host is taken for a failed run. -/
theorem check_reflects {target : String} (htarget : isOption target = false) (ids : List String)
    (s : Surroundings) {c : Configuration} (hc : c.IsAccepted) :
    Invocation.ofArguments? (checkArguments target ids) =
        some ⟨false, .check (some target) ids⟩ ∧
      (∃ done, execute s c (.check (some target) ids) = .ok (some done) ∧
        done.value.Reflects s c ids) ∧
      (∀ arguments verbose,
        Invocation.ofArguments? arguments = some ⟨verbose, .check (some target) ids⟩ →
        (Configuration.ofProject s.files s.directory).value = .ok c →
        ∃ e, run s arguments = .ok (.exit e) ∧ e.Reflects s c ids) ∧
      ∀ output, ∀ g ∈ resultsIn output, g.code ≠ failureCode := by
  obtain ⟨done, hdone, hreflects⟩ := exists_check s hc (some target) ids
  refine ⟨ofArguments?_checkArguments htarget ids, ⟨done, ?_, hreflects⟩, ?_, ?_⟩
  · rw [execute, hdone, map_ok]
  · exact fun arguments verbose harguments hproject => exists_run hproject harguments
  · exact fun output g hg => code_ne_failureCode hg

/-- A project without files, and a host that reports a finding beside a usage error. -/
def findingHost : Surroundings where
  files := ⟨"", []⟩
  directory := []
  interpreter := "python"
  outcomeOf := fun _ => .ended 48 "warming up\na.py:1:0: E5401: lost (missing-timeline)\n" "usage"

theorem check_reflects_findingHost :
    isOption "model" = false ∧ Configuration.empty.IsAccepted ∧
      ∃ e, run findingHost (checkArguments "model" ["metric-target-alignment"]) = .ok (.exit e) ∧
        e.status = 1 ∧ ∃ command, e.commands = [command] := by
  have htarget : isOption "model" = false := by decide
  have hproject : (Configuration.ofProject findingHost.files findingHost.directory).value =
      .ok Configuration.empty := rfl
  have hc : Configuration.empty.IsAccepted := Configuration.isAccepted_of_ofProject hproject
  obtain ⟨hparsed, -, hrun, -⟩ :=
    check_reflects htarget ["metric-target-alignment"] findingHost hc
  obtain ⟨e, he, hreflects⟩ := hrun _ _ hparsed hproject
  have hkept : ∃ id ∈ Rule.ids, id ∉ ["metric-target-alignment"] ∧
      ¬ Configuration.empty.Disables id := by
    refine ⟨Rule.actionDuration.id, by decide, by decide, ?_⟩
    rintro ⟨items, hitems, -⟩
    cases hitems
  obtain ⟨command, hcommands, -, hfindings, -⟩ := hreflects.ran (by decide) hkept
  have hreports : (findingHost.outcomeOf command).HasReports := by
    change ∃ line ∈ Text.lines _, IsReportLine line
    decide +kernel
  exact ⟨htarget, hc, e, he, hfindings.mpr hreports, command, hcommands⟩

end CommandLine

end MarkerLint
