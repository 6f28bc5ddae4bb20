import Mathlib.Data.List.ReduceOption
import MarkerLint.Proofs.DigitLimit
import MarkerLint.Proofs.Reporting

/-!
# Inspection class by class

Inspection has an answer for every module, whatever the decorators hold and whichever rules of the
catalog it runs: a rule that fails on a class adds nothing there, as if it had not been run. What it
says about a class depends on that class and the path alone, so inspecting statements one after the
other gives what inspecting them separately gives.
-/

namespace MarkerLint.Inspection

open Source Registry

section Rules

variable {rules : List Rule} {rule : Rule} {markers : List Marker}

theorem violationsOf_of_error {fault : Fault} (h : rule.check markers = .error fault) :
    violationsOf rule markers = [] := by
  rw [violationsOf, h]
  rfl

/-- Leaving out rules that add nothing changes nothing. -/
theorem violations_filter {p : Rule → Bool}
    (h : ∀ r ∈ rules, p r = false → violationsOf r markers = []) :
    violations (rules.filter p) markers = violations rules markers := by
  induction rules with
  | nil => rfl
  | cons r rest ih =>
      have hrest := ih fun s hs => h s (List.mem_cons_of_mem _ hs)
      simp only [violations] at hrest ⊢
      cases hp : p r with
      | true => rw [List.filter_cons_of_pos hp, List.flatMap_cons, List.flatMap_cons, hrest]
      | false =>
          have hnone := h r List.mem_cons_self hp
          rw [List.filter_cons_of_neg (by simp [hp]), List.flatMap_cons, hnone, hrest,
            List.nil_append]

/-- The rules of the catalog are told apart by their ids. -/
theorem eq_of_id_eq {r s : Rule} (hr : r ∈ Rule.catalog) (hs : s ∈ Rule.catalog)
    (h : r.id = s.id) : r = s := by
  have hn : (Rule.catalog.map (·.id)).Nodup := by decide
  exact List.inj_on_of_nodup_map hn hr hs h

/-- A class is inspected as if a rule that fails on it were left out. -/
theorem inspectClass_filter_of_error {registry : Registry} {path : String} {d : Declaration}
    (hrules : rules ⊆ Rule.catalog) (hr : rule ∈ rules) {fault : Fault}
    (h : rule.check (markersOf path d) = .error fault) :
    inspectClass registry (rules.filter (·.id != rule.id)) path d =
      inspectClass registry rules path d := by
  have hnone : ∀ r ∈ rules, (r.id != rule.id) = false →
      violationsOf r (markersOf path d) = [] := by
    intro r hmem hid
    obtain rfl : r = rule := by
      apply eq_of_id_eq (hrules hmem) (hrules hr)
      simpa using hid
    exact violationsOf_of_error h
  have hviolations := violations_filter hnone
  rw [inspectClass, inspectClass]
  cases hm : markersOf path d with
  | nil => rfl
  | cons m ms =>
      rw [hm] at hviolations
      simp only [hviolations]

end Rules

section Classes

variable {registry : Registry} {rules : List Rule} {path : String}

/-- Classes are inspected one by one; those without markers are left out. -/
theorem inspectClasses_eq_ok {ds : List Declaration} {found : List (Option InspectedClass)}
    (h : List.Forall₂ (fun d e => inspectClass registry rules path d = .ok e) ds found) :
    inspectClasses registry rules path ds = .ok found.reduceOption := by
  induction h with
  | nil => rfl
  | @cons d e rest others hd _ ih =>
      rw [inspectClasses, hd, ih]
      cases e <;> rfl

/-- Every class has an answer: no diagnostic of a catalog rule fails with the packaged registry. -/
theorem exists_inspectClass (hrules : rules ⊆ Rule.catalog) (path : String) (d : Declaration) :
    ∃ e, inspectClass packaged rules path d = .ok e := by
  obtain ⟨checkers, -, hcheckers⟩ := Checker.ofRules_forall₂ hrules
  obtain ⟨diagnostics, hdiagnostics, -, -⟩ := ofClass_eq_diagnostics hcheckers hrules path d
  rw [inspectClass]
  cases hm : markersOf path d with
  | nil => exact ⟨none, rfl⟩
  | cons m ms =>
      rw [hm] at hdiagnostics
      exact ⟨some ⟨d.name, d.span.line, m :: ms, diagnostics⟩, by simp only [hdiagnostics, ok_bind]⟩

/-- So has every list of classes: the answers to them in order. -/
theorem exists_inspectClasses (hrules : rules ⊆ Rule.catalog) (path : String)
    (ds : List Declaration) :
    ∃ found, List.Forall₂ (fun d e => inspectClass packaged rules path d = .ok e) ds found ∧
      inspectClasses packaged rules path ds = .ok found.reduceOption := by
  obtain ⟨found, hfound⟩ := exists_mapM_eq_ok fun d (_ : d ∈ ds) => exists_inspectClass hrules path d
  have hforall := mapM_eq_ok_iff.mp hfound
  exact ⟨found, hforall, inspectClasses_eq_ok hforall⟩

end Classes

/-- With the packaged registry and rules of the catalog, inspection has an answer for every module:
the answers to its classes, each of which depends on that class alone. Statements one after the other
give their answers one after the other, and a rule that fails on a class is as good as left out
there. -/
theorem inspect_classwise {rules : List Rule} (hrules : rules ⊆ Rule.catalog) :
    (∀ m : Module, ∃ found,
      List.Forall₂ (fun d e => inspectClass packaged rules m.path d = .ok e) m.classes found ∧
      inspect packaged rules m = .ok found.reduceOption) ∧
    (∀ file name xs ys, ∃ first second,
      inspect packaged rules ⟨file, name, xs⟩ = .ok first ∧
      inspect packaged rules ⟨file, name, ys⟩ = .ok second ∧
      inspect packaged rules ⟨file, name, xs ++ ys⟩ = .ok (first ++ second)) ∧
    ∀ path d, ∀ rule ∈ rules, ∀ fault, rule.check (markersOf path d) = .error fault →
      inspectClass packaged rules path d =
        inspectClass packaged (rules.filter (·.id != rule.id)) path d := by
  refine ⟨?_, ?_, ?_⟩
  · intro m
    exact exists_inspectClasses hrules m.path m.classes
  · intro file name xs ys
    have hpath (body : List Stmt) : (⟨file, name, body⟩ : Module).path =
        (⟨file, name, []⟩ : Module).path := rfl
    obtain ⟨first, hfirst, hxs⟩ :=
      exists_inspectClasses hrules (⟨file, name, []⟩ : Module).path (classesOf xs)
    obtain ⟨second, hsecond, hys⟩ :=
      exists_inspectClasses hrules (⟨file, name, []⟩ : Module).path (classesOf ys)
    refine ⟨first.reduceOption, second.reduceOption, hxs, hys, ?_⟩
    rw [inspect, Module.classes, hpath, classesOf_append, ← List.reduceOption_append]
    exact inspectClasses_eq_ok (List.rel_append hfirst hsecond)
  · intro path d rule hr fault h
    exact (inspectClass_filter_of_error hrules hr h).symm

/-- A class with an initiative whose name is an integer. -/
def numbered (i : Int) : Declaration :=
  let nowhere : Span := ⟨none, none, none, none⟩
  { name := "C"
    span := nowhere
    decorators :=
      [.call nowhere (.name nowhere "BusinessInitiative") []
        [(some "name", .constant nowhere (.integer i))]] }

/-- The timeline rule fails on that class if the integer is beyond the digit limit. -/
theorem check_numbered {i : Int} (h : 10 ^ digitLimit ≤ i.natAbs) (path : String) :
    Rule.initiativeTimeline.check (markersOf path (numbered i)) = .error .tooManyDigits := by
  have hgiven : (.integer i : Datum).isGiven = true := by
    have hpos : 0 < 10 ^ digitLimit := Nat.pow_pos (by decide)
    have hne : i ≠ 0 := by omega
    simpa [Data.isGiven] using hne
  have hname : (.integer i : Datum).displayName = .error .tooManyDigits := by
    rw [Data.displayName, if_pos hgiven]
    exact map_eq_error_iff.mpr (Decimal.text?_of_le h)
  obtain ⟨m, hmarkers, hunderstood, hget⟩ : ∃ m, markersOf path (numbered i) = [m] ∧
      Rule.initiativeTimeline.understands m = true ∧ m.get "name" = .integer i :=
    ⟨_, rfl, rfl, rfl⟩
  have hfindings : Rule.initiativeTimeline.findings m = .error .tooManyDigits := by
    change Rule.timelineFindings m = _
    rw [Rule.timelineFindings, hget, hname]
    rfl
  rw [hmarkers, Rule.check, if_pos hunderstood, Rule.checkMarker, hfindings]
  rfl

/-- The smallest integer beyond the digit limit. -/
def firstRefused : Int := (10 ^ digitLimit : Nat)

theorem inspect_classwise_numbered :
    Rule.catalog ⊆ Rule.catalog ∧ Rule.initiativeTimeline ∈ Rule.catalog ∧
      Rule.initiativeTimeline.check (markersOf "a.py" (numbered firstRefused)) =
        .error .tooManyDigits ∧
      inspectClass packaged Rule.catalog "a.py" (numbered firstRefused) =
        inspectClass packaged (Rule.catalog.filter (·.id != Rule.initiativeTimeline.id)) "a.py"
          (numbered firstRefused) ∧
      ∃ entries, inspect packaged Rule.catalog
        ⟨some "a.py", "a", [.classDef (numbered firstRefused).span "C"
          (numbered firstRefused).decorators []]⟩ = .ok entries := by
  have hrefused : 10 ^ digitLimit ≤ firstRefused.natAbs :=
    Nat.le_of_eq (Int.natAbs_natCast _).symm
  have hmem : Rule.initiativeTimeline ∈ Rule.catalog := by simp [Rule.catalog]
  have hcheck := check_numbered hrefused "a.py"
  obtain ⟨hanswer, -, hfilter⟩ := inspect_classwise (List.Subset.refl Rule.catalog)
  obtain ⟨found, -, hfound⟩ := hanswer
    ⟨some "a.py", "a", [.classDef (numbered firstRefused).span "C"
      (numbered firstRefused).decorators []]⟩
  exact ⟨List.Subset.refl _, hmem, hcheck, hfilter "a.py" _ _ hmem _ hcheck, _, hfound⟩

end MarkerLint.Inspection
