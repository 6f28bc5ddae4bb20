import MarkerLint.Rule.Budget
import MarkerLint.Rule.Duration
import MarkerLint.Rule.Timeline
import MarkerLint.Rule.Validation

/-!
# The catalog of rules

Every rule in the order in which it is registered. Three rules are registered without messages: they
name what is not checked yet.
-/

namespace MarkerLint.Rule

/-- A rule without checks: it understands markers and finds nothing. -/
def withoutChecks (id description : String) (markerNames : List String) : Rule where
  id := id
  type := .problem
  description := description
  markerNames := markerNames
  messageIds := []
  findings := fun _ => .ok []

/-- Reserved for the targets of metrics. -/
def metricTarget : Rule :=
  withoutChecks "metric-target-alignment"
    "Metric targets should align with their baselines and thresholds." ["Metric"]

/-- Reserved for the scenarios of witnesses. -/
def witnessScenario : Rule :=
  withoutChecks "witness-bdd-completeness"
    "Witnesses should describe complete given/when/then scenarios." ["Witness"]

/-- Reserved for the mocks of witnesses. -/
def witnessMocks : Rule :=
  withoutChecks "witness-mock-consistency" "Witness mocks should be declared consistently."
    ["Witness"]

/-- Every rule, in the order of registration. -/
def catalog : List Rule :=
  [actionDuration, behaviorValidation, initiativeBudget, initiativeTimeline, metricTarget,
   witnessScenario, witnessMocks]

/-- The ids of all rules, in the order of registration. -/
def ids : List String :=
  catalog.map (·.id)

/-- The rule with an id. -/
def find? (id : String) : Option Rule :=
  catalog.find? fun r => r.id == id

end MarkerLint.Rule
