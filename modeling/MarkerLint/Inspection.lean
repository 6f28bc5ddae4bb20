import MarkerLint.Diagnostic
import MarkerLint.Log

/-!
# Inspection of a module

For every class with markers, in source order: its markers, and the diagnostics of all rules. A rule
that fails on a class reports nothing there and leaves the other rules and classes alone; the
failure is noted in the log.
-/

namespace MarkerLint

open Source

/-- What inspection says about one class. -/
structure InspectedClass where
  declaration : String
  line : Option Int
  markers : List Marker
  diagnostics : List Diagnostic

/-- The log entry on a marker, if its arguments could not be written as text. -/
def Marker.degradation? (m : Marker) : Option LogEntry :=
  match m.reading with
  | .unwritable _ =>
      some ⟨.debug, .extraction, .ok ("Degrading " ++ m.name ++ " marker at " ++ m.location)⟩
  | _ => none

/-- The log entries on reading the markers of a declaration. -/
def extractionLog (markers : List Marker) : List LogEntry :=
  markers.filterMap Marker.degradation?

namespace Inspection

/-- The violations of a rule on a class; none if the rule fails. -/
def violationsOf (rule : Rule) (markers : List Marker) : List Violation :=
  (rule.check markers).toOption.getD []

/-- The violations of all rules on a class, rule by rule. -/
def violations (rules : List Rule) (markers : List Marker) : List Violation :=
  rules.flatMap fun rule => violationsOf rule markers

/-- What inspection says about a class; nothing if it has no markers. -/
def inspectClass (r : Registry) (rules : List Rule) (path : String) (d : Declaration) :
    Except Fault (Option InspectedClass) :=
  match markersOf path d with
  | [] => .ok none
  | m :: ms => do
      let diagnostics ← Diagnostic.ofViolations r (violations rules (m :: ms))
      .ok (some ⟨d.name, d.span.line, m :: ms, diagnostics⟩)

/-- What inspection says about the classes of a list. -/
def inspectClasses (r : Registry) (rules : List Rule) (path : String) :
    List Declaration → Except Fault (List InspectedClass)
  | [] => .ok []
  | d :: rest => do
      let here ← inspectClass r rules path d
      let others ← inspectClasses r rules path rest
      .ok (here.toList ++ others)

/-- What inspection says about a module. -/
def inspect (r : Registry) (rules : List Rule) (m : Module) : Except Fault (List InspectedClass) :=
  inspectClasses r rules m.path m.classes

/-- The log entries of one rule on a class: the markers are read anew, and a failure is noted. -/
def ruleLog (d : Declaration) (markers : List Marker) (rule : Rule) : List LogEntry :=
  extractionLog markers ++
    match rule.check markers with
    | .ok _ => []
    | .error _ => [⟨.debug, .inspection, .ok (rule.id ++ " failed on " ++ d.name)⟩]

/-- The log entries of inspecting a class. -/
def classLog (rules : List Rule) (path : String) (d : Declaration) : List LogEntry :=
  match markersOf path d with
  | [] => []
  | m :: ms => extractionLog (m :: ms) ++ rules.flatMap (ruleLog d (m :: ms))

/-- The log entries of inspecting classes, up to the first one that has no answer. -/
def classesLog (r : Registry) (rules : List Rule) (path : String) :
    List Declaration → List LogEntry
  | [] => []
  | d :: rest =>
      match inspectClass r rules path d with
      | .error _ => classLog rules path d
      | .ok _ => classLog rules path d ++ classesLog r rules path rest

/-- The log entries of inspecting a module. -/
def log (r : Registry) (rules : List Rule) (m : Module) : List LogEntry :=
  classesLog r rules m.path m.classes

end Inspection

end MarkerLint
