import Mathlib.Data.Set.Basic
import MarkerLint.Proofs.Containment

/-!
# Rules do not see one another

What a rule reports on a class depends on the class alone, and every diagnostic carries the id of the
rule that found it. The diagnostics of a list of rules are therefore those of its members, one after
the other: the order of the rules only orders the diagnostics, and leaving rules out takes away
exactly the diagnostics that carry their ids. This holds whether or not a rule fails somewhere.
-/

namespace MarkerLint.Inspection

open Source Registry

/-- The diagnostics of one rule on a class, with the packaged registry. -/
def diagnosticsOf (markers : List Marker) (rule : Rule) : List Diagnostic :=
  (Diagnostic.ofViolations packaged (violationsOf rule markers)).toOption.getD []

/-- What is said about a class when the given rules are run. -/
def entryOf (rules : List Rule) (path : String) (d : Declaration) : InspectedClass :=
  ⟨d.name, d.span.line, markersOf path d, rules.flatMap (diagnosticsOf (markersOf path d))⟩

section Rules

variable {rules : List Rule} {markers : List Marker}

/-- Every violation of a catalog rule has its diagnostic. -/
theorem ofViolations_violationsOf {rule : Rule} (hr : rule ∈ Rule.catalog)
    (markers : List Marker) :
    Diagnostic.ofViolations packaged (violationsOf rule markers) =
        .ok (diagnosticsOf markers rule) ∧
      ∀ d ∈ diagnosticsOf markers rule, d.ruleId = rule.id := by
  obtain ⟨e, he, hid, -, -⟩ := exists_packagedEntry hr
  have hchecker := Checker.ofRule_of_entry (packaged_entry_eq he) (isSound_of_mem he) hid
  obtain ⟨ds, hds, hreports⟩ : ∃ ds,
      Diagnostic.ofViolations packaged (violationsOf rule markers) = .ok ds ∧
        List.Forall₂ (Diagnostic.Reports packaged rule) (violationsOf rule markers) ds := by
    apply Diagnostic.ofViolations_forall₂
    intro v hv
    obtain ⟨d, _, hreports, -⟩ := exists_report hr hchecker (foundBy_of_mem_violationsOf hr hv)
    exact ⟨d, hreports.built, hreports⟩
  have heq : diagnosticsOf markers rule = ds := by
    rw [diagnosticsOf, hds]
    rfl
  rw [heq]
  refine ⟨hds, fun d hd => ?_⟩
  obtain ⟨v, -, hreport⟩ := exists_of_mem_forall₂ hreports hd
  exact hreport.ruleId_eq

/-- The diagnostics of several rules are those of each rule, one after the other. -/
theorem ofViolations_violations (hrules : rules ⊆ Rule.catalog) (markers : List Marker) :
    Diagnostic.ofViolations packaged (violations rules markers) =
      .ok (rules.flatMap (diagnosticsOf markers)) := by
  induction rules with
  | nil => rfl
  | cons rule rest ih =>
      have hhere := (ofViolations_violationsOf (hrules List.mem_cons_self) markers).1
      have hrest := ih fun r hr => hrules (List.mem_cons_of_mem _ hr)
      rw [violations, List.flatMap_cons, List.flatMap_cons]
      exact Diagnostic.ofViolations_append hhere hrest

/-- Leaving out rules by their ids leaves out the diagnostics with these ids. -/
theorem flatMap_diagnosticsOf_filter (hrules : rules ⊆ Rule.catalog) (p : String → Bool) :
    (rules.filter fun r => p r.id).flatMap (diagnosticsOf markers) =
      (rules.flatMap (diagnosticsOf markers)).filter fun d => p d.ruleId := by
  induction rules with
  | nil => rfl
  | cons rule rest ih =>
      have hids := (ofViolations_violationsOf (hrules List.mem_cons_self) markers).2
      have hrest := ih fun r hr => hrules (List.mem_cons_of_mem _ hr)
      rw [List.filter_cons, List.flatMap_cons, List.filter_append, ← hrest]
      cases hp : p rule.id with
      | true =>
          have hall : (diagnosticsOf markers rule).filter (fun d => p d.ruleId) =
              diagnosticsOf markers rule :=
            List.filter_eq_self.mpr fun d hd => by rw [hids d hd, hp]
          rw [if_pos rfl, List.flatMap_cons, hall]
      | false =>
          have hnone : (diagnosticsOf markers rule).filter (fun d => p d.ruleId) = [] :=
            List.filter_eq_nil_iff.mpr fun d hd => by simp [hids d hd, hp]
          rw [if_neg Bool.false_ne_true, hnone, List.nil_append]

end Rules

section Modules

variable {rules : List Rule}

/-- A class with markers has its entry, any other class has none. -/
theorem inspectClass_eq (hrules : rules ⊆ Rule.catalog) (path : String) (d : Declaration) :
    inspectClass packaged rules path d =
      .ok (if (markersOf path d).isEmpty then none else some (entryOf rules path d)) := by
  have hdiagnostics := ofViolations_violations hrules (markersOf path d)
  rw [inspectClass, entryOf]
  cases hm : markersOf path d with
  | nil => rfl
  | cons m ms =>
      rw [hm] at hdiagnostics
      simp only [hdiagnostics, ok_bind]
      rfl

theorem inspectClasses_eq (hrules : rules ⊆ Rule.catalog) (path : String)
    (ds : List Declaration) :
    inspectClasses packaged rules path ds =
      .ok ((ds.filter fun d => !(markersOf path d).isEmpty).map (entryOf rules path)) := by
  induction ds with
  | nil => rfl
  | cons d rest ih =>
      rw [inspectClasses, inspectClass_eq hrules, ih, ok_bind, ok_bind]
      cases h : (markersOf path d).isEmpty <;> simp [h]

/-- Inspection says about each class with markers what the rules say, one after the other. -/
theorem inspect_eq (hrules : rules ⊆ Rule.catalog) (m : Module) :
    inspect packaged rules m =
      .ok ((m.classes.filter fun d => !(markersOf m.path d).isEmpty).map (entryOf rules m.path)) :=
  inspectClasses_eq hrules m.path m.classes

end Modules

/-- Two entries are about the same class, and say the same if they come from the same rules in
another order. -/
structure SameClass (rules others : List Rule) (e e' : InspectedClass) : Prop where
  declaration_eq : e'.declaration = e.declaration
  line_eq : e'.line = e.line
  markers_eq : e'.markers = e.markers
  diagnostics_perm : others.Perm rules → e'.diagnostics.Perm e.diagnostics

/-- The entry without the diagnostics of some rules. -/
def withoutRules (D : Set String) [DecidablePred (· ∈ D)] (e : InspectedClass) : InspectedClass :=
  { e with diagnostics := e.diagnostics.filter fun d => d.ruleId ∉ D }

theorem entryOf_filter {rules : List Rule} (hrules : rules ⊆ Rule.catalog) (D : Set String)
    [DecidablePred (· ∈ D)] (path : String) (d : Declaration) :
    entryOf (rules.filter fun r => r.id ∉ D) path d = withoutRules D (entryOf rules path d) := by
  rw [entryOf, withoutRules, entryOf]
  congr 1
  exact flatMap_diagnosticsOf_filter hrules fun id => decide (id ∉ D)

/-- Rules of the catalog are independent: which of them are run decides neither which classes are
listed nor their lines and markers, their order only orders the diagnostics, and leaving out the
rules with certain ids leaves out the diagnostics with these ids and nothing else. -/
theorem inspect_independent {rules others : List Rule} (hrules : rules ⊆ Rule.catalog)
    (hothers : others ⊆ Rule.catalog) (m : Module) :
    ∃ entries entries', inspect packaged rules m = .ok entries ∧
      inspect packaged others m = .ok entries' ∧
      List.Forall₂ (SameClass rules others) entries entries' ∧
      ∀ (D : Set String) [DecidablePred (· ∈ D)],
        inspect packaged (rules.filter fun r => r.id ∉ D) m =
          .ok (entries.map (withoutRules D)) := by
  refine ⟨_, _, inspect_eq hrules m, inspect_eq hothers m, ?_, ?_⟩
  · rw [List.forall₂_map_left_iff, List.forall₂_map_right_iff]
    refine List.forall₂_same.mpr fun d _ => ⟨rfl, rfl, rfl, fun h => ?_⟩
    exact h.flatMap_right _
  · intro D _
    have hfilter : rules.filter (fun r => r.id ∉ D) ⊆ Rule.catalog :=
      fun r hr => hrules (List.mem_filter.mp hr).1
    rw [inspect_eq hfilter m, List.map_map]
    congr 2
    funext d
    exact entryOf_filter hrules D m.path d

/-- A module with a class on which the timeline rule fails. -/
def failingModule : Module :=
  ⟨some "a.py", "a", [.classDef (numbered firstRefused).span "C"
    (numbered firstRefused).decorators []]⟩

theorem inspect_independent_failing :
    Rule.catalog ⊆ Rule.catalog ∧ Rule.catalog.reverse ⊆ Rule.catalog ∧
      Rule.catalog.reverse.Perm Rule.catalog ∧
      Rule.initiativeTimeline.check (markersOf "a.py" (numbered firstRefused)) =
        .error .tooManyDigits ∧
      ∃ entries entries', inspect packaged Rule.catalog failingModule = .ok entries ∧
        inspect packaged Rule.catalog.reverse failingModule = .ok entries' ∧
        List.Forall₂ (SameClass Rule.catalog Rule.catalog.reverse) entries entries' ∧
        inspect packaged
            (Rule.catalog.filter fun r => r.id ∉ {id | id = Rule.initiativeBudget.id})
            failingModule =
          .ok (entries.map (withoutRules {id | id = Rule.initiativeBudget.id})) := by
  have hrefused : 10 ^ digitLimit ≤ firstRefused.natAbs :=
    Nat.le_of_eq (Int.natAbs_natCast _).symm
  have hself := List.Subset.refl Rule.catalog
  have hreverse : Rule.catalog.reverse ⊆ Rule.catalog :=
    fun _ hr => List.mem_reverse.mp hr
  obtain ⟨entries, entries', hentries, hentries', hsame, hwithout⟩ :=
    inspect_independent hself hreverse failingModule
  exact ⟨hself, hreverse, List.reverse_perm _, check_numbered hrefused "a.py", entries, entries',
    hentries, hentries', hsame, hwithout _⟩

end MarkerLint.Inspection
