import MarkerLint.Rule
import MarkerLint.Rule.Contradiction

/-!
# Preconditions and validation of behaviours

Every precondition of a behaviour needs validation rules, and no validation rule may contradict a
precondition.
-/

namespace MarkerLint.Rule

open Text

/-- The texts among values, in order. -/
def textsAmong (values : List Datum) : List CodeText :=
  values.filterMap Data.text?

/-- The validation rules of a behaviour, if they are given as a list that is not empty. -/
def validationRules? (validation : Datum) : Option (List Datum) :=
  match validation with
  | .table entries =>
      match Table.get? ("rules" : CodeText) entries with
      | some (.list (r :: rs)) => some (r :: rs)
      | _ => none
  | _ => none

/-- A validation rule as it is compared: lower case, without blanks around it. -/
def normalizeRule (rule : CodeText) : CodeText :=
  trim (lower rule)

/-- The finding that a precondition has no validation. -/
def missingValidation (name precondition : CodeText) : Finding :=
  ⟨"missingValidationForPrecondition", [("name", name), ("precondition", trim precondition)]⟩

/-- The finding that a rule contradicts a precondition. -/
def contradiction (name precondition rule : CodeText) : Finding :=
  ⟨"validationContradictsPrecondition",
    [("name", name), ("validationRule", rule), ("precondition", trim precondition)]⟩

/-- The findings on preconditions, given the validation rules if there are any. -/
def preconditionFindings (name : CodeText) (preconditions : List CodeText)
    (rules : Option (List Datum)) : List Finding :=
  match rules with
  | none => preconditions.map (missingValidation name)
  | some rules =>
      let normalized := (textsAmong rules).map normalizeRule
      preconditions.flatMap fun p =>
        (normalized.filter fun r => Contradiction.contradicts p r).map
          (contradiction name p)

/-- The findings on the validation of a behaviour. -/
def validationFindings (m : Marker) : Except Fault (List Finding) :=
  match m.get "preconditions" with
  | .list (p :: ps) => do
      let name ← (m.get "name").displayName
      .ok (preconditionFindings name (textsAmong (p :: ps)) (validationRules? (m.get "validation")))
  | _ => .ok []

/-- Preconditions are validated and not contradicted. -/
def behaviorValidation : Rule where
  id := "behavior-validation-consistency"
  type := .problem
  description := "Validation rules should be consistent with preconditions."
  markerNames := ["Behavior"]
  messageIds := ["missingValidationForPrecondition", "validationContradictsPrecondition"]
  findings := validationFindings

end MarkerLint.Rule
