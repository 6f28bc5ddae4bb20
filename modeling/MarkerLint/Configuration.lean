import MarkerLint.Log
import MarkerLint.Rule.Catalog

/-!
# Configuration

The settings of a project: rules to leave out and paths to leave alone. The settings come from a
document that may hold anything. What is not understood is passed over with a warning.
-/

namespace MarkerLint

/-- The settings, and the whole section that they come from. -/
structure Configuration where
  document : Value
  tool : Value

namespace Configuration

/-- The settings of a project without a configuration. -/
def empty : Configuration := ⟨.table [], .table []⟩

/-- The names of the settings. -/
def knownKeys : List String := ["disable", "exclude_paths"]

/-- The value is one of the texts. -/
def isOneOf (texts : List String) (v : Value) : Bool :=
  match v with
  | .text s => texts.contains s
  | _ => false

/-- A warning of this module. -/
def warning (text : Except Fault String) : LogEntry :=
  ⟨.warning, .configuration, ("Configuration Warning: " ++ ·) <$> text⟩

/-- The keys of a document: what going through it element by element yields. -/
def keysOf : Value → Except Fault (List Value)
  | .table entries => .ok (entries.map fun e => .text e.1)
  | .list items => .ok items
  | .text s => .ok (s.toList.map fun c => .text (String.singleton c))
  | v => .error (.notIterable v.kind)

/-- A step of the examination: the warnings so far, and the fault that ended it, if one did. -/
structure Examination where
  log : List LogEntry
  fault : Option Fault

namespace Examination

/-- Nothing to remark. -/
def silent : Examination := ⟨[], none⟩

/-- Ends without a remark. -/
def failed (f : Fault) : Examination := ⟨[], some f⟩

/-- One examination after the other, unless the first one failed. -/
def andThen (first second : Examination) : Examination :=
  match first.fault with
  | some _ => first
  | none => ⟨first.log ++ second.log, second.fault⟩

end Examination

/-- Warns about each value that is none of the texts. A value that cannot be looked up in a set ends
the examination. One that cannot be written is warned about like any other: the warning is formed
when it is shown. -/
def warnUnless (texts : List String) (remark : String → String) : List Value → Examination
  | [] => .silent
  | v :: rest =>
      if !v.isHashable then .failed (.unhashable v.kind)
      else if isOneOf texts v then warnUnless texts remark rest
      else .andThen ⟨[warning (remark <$> v.display)], none⟩ (warnUnless texts remark rest)

/-- Examines the names of the settings. -/
def examineKeys (document : Value) : Examination :=
  match keysOf document with
  | .error f => .failed f
  | .ok keys => warnUnless knownKeys (fun k => s!"unknown [tool.aabha-lint] key '{k}'.") keys

/-- Examines the rules to leave out. -/
def examineDisabled (document : Value) : Examination :=
  match document.get? "disable" with
  | .error f => .failed f
  | .ok none => .silent
  | .ok (some (.list items)) =>
      warnUnless Rule.ids (fun id => s!"unknown rule id '{id}' in 'disable'.") items
  | .ok (some _) => ⟨[warning (.ok "'disable' must be a list of rule ids.")], none⟩

/-- Examines the settings of a document. -/
def examine (document : Value) : Examination :=
  if document.isGiven then (examineKeys document).andThen (examineDisabled document) else .silent

/-- The configuration of a document and its section, with the warnings of the examination. -/
def load (document tool : Value) : Logged (Except Fault Configuration) :=
  let e := examine document
  ⟨match e.fault with
    | some f => .error f
    | none => .ok ⟨document, tool⟩, e.log⟩

/-- The items of a setting that is a list. -/
def itemsOf (c : Configuration) (key : String) : Except Fault (List Value) := do
  let v ← c.document.get? key
  .ok ((v.bind Data.items?).getD [])

/-- The rules to leave out, as listed; unknown ones are passed over. -/
def disabledRules (c : Configuration) : Except Fault (List String) := do
  let items ← c.itemsOf "disable"
  .ok ((items.filterMap Data.text?).filter Rule.ids.contains)

/-- The parts of paths to leave alone. -/
def excludedPaths (c : Configuration) : Except Fault (List String) := do
  let items ← c.itemsOf "exclude_paths"
  .ok (items.filterMap Data.text?)

/-- The rule is not left out. -/
def isEnabled (c : Configuration) (ruleId : String) : Except Fault Bool := do
  let disabled ← c.disabledRules
  .ok (!disabled.contains ruleId)

end Configuration

end MarkerLint
