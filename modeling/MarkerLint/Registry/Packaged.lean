import MarkerLint.Registry

/-!
# The packaged registry

The registry that comes with the program: one entry for each rule of the catalog, and the
instructions that stand in for missing ones. The templates hold no percent sign but those of their
fields.
-/

namespace MarkerLint.Registry

/-- A message of the packaged registry. -/
structure PackagedMessage where
  id : String
  number : String
  symbol : String
  template : String

/-- The fields of a message. -/
def PackagedMessage.fields (m : PackagedMessage) : Table Value :=
  [("number", .text m.number), ("symbol", .text m.symbol), ("message_template", .text m.template)]

/-- An entry of the packaged registry. -/
structure PackagedEntry where
  ruleId : String
  displayName : String
  description : String
  ruleType : String
  checkerId : String
  markers : List String
  messages : List PackagedMessage
  instructions : String
  references : List String

namespace PackagedEntry

/-- The messages of an entry under their ids. -/
def messageTable (e : PackagedEntry) : Table Value :=
  e.messages.map fun m => (m.id, .table m.fields)

/-- The fields of an entry. -/
def fields (e : PackagedEntry) : Table Value :=
  [("display_name", .text e.displayName),
   ("short_description", .text e.description),
   ("rule_type", .text e.ruleType),
   ("checker_id", .text e.checkerId),
   ("markers", .list (e.markers.map .text)),
   ("messages", .table e.messageTable),
   ("manual_instructions", .text e.instructions),
   ("references", .list (e.references.map .text))]

/-- The entry under its key. -/
def keyed (e : PackagedEntry) : String × Value :=
  (keyStart ++ e.ruleId, .table e.fields)

end PackagedEntry

/-- The entry of the duration rule. -/
def packagedDuration : PackagedEntry where
  ruleId := "action-duration-realism"
  displayName := "Action Duration Realism"
  description := "Duration estimates should align with automation level and scope."
  ruleType := "suggestion"
  checkerId := "51"
  markers := ["Action"]
  messages :=
    [{ id := "automatedActionLongDuration"
       number := "01"
       symbol := "automated-action-long-duration"
       template :=
        "Action '%(name)s' is fully-automated but has estimatedDuration='%(duration)s'. "
          ++ "Fully automated actions run without human intervention and should be "
          ++ "'instant' (< 1s) or 'quick' (< 1min)." },
     { id := "manualActionInstant"
       number := "02"
       symbol := "manual-action-instant"
       template :=
        "Action '%(name)s' is manual but has estimatedDuration='instant'. "
          ++ "Manual actions need human interaction time; use 'quick' at minimum." },
     { id := "atomicActionLongDuration"
       number := "03"
       symbol := "atomic-action-long-duration"
       template :=
        "Action '%(name)s' has scope='Atomic' but estimatedDuration='%(duration)s'. "
          ++ "Long-running atomic actions suggest the scope is wrong (Composite or Journey)." }]
  instructions :=
    "Make estimatedDuration agree with the action. Fully automated actions "
      ++ "should be 'instant' or 'quick'; if one truly takes minutes it probably "
      ++ "hides an external call worth optimizing. Manual actions take at least "
      ++ "'quick'. Atomic actions are the smallest unit of work: if this one runs "
      ++ "longer than 'short', it likely orchestrates several steps and belongs in "
      ++ "'Composite' scope, or is a business milestone with 'Journey' scope."
  references := ["estimatedDuration ranking: instant < quick < short < medium < long"]

/-- The entry of the validation rule. -/
def packagedValidation : PackagedEntry where
  ruleId := "behavior-validation-consistency"
  displayName := "Behavior Validation Consistency"
  description := "Validation rules should be consistent with preconditions."
  ruleType := "problem"
  checkerId := "52"
  markers := ["Behavior"]
  messages :=
    [{ id := "missingValidationForPrecondition"
       number := "01"
       symbol := "missing-validation-for-precondition"
       template :=
        "Behavior '%(name)s' has precondition '%(precondition)s' but no "
          ++ "corresponding validation rule." },
     { id := "validationContradictsPrecondition"
       number := "02"
       symbol := "validation-contradicts-precondition"
       template :=
        "Behavior '%(name)s' has validation rule '%(validationRule)s' that "
          ++ "contradicts precondition '%(precondition)s'." }]
  instructions :=
    "Preconditions define what must be true before execution; validation.rules "
      ++ "should verify them. Add a rule for every precondition, and do not write a "
      ++ "rule that checks for the opposite of a precondition (for example "
      ++ "\"user must not be verified\" against \"User is verified\")."
  references := []

/-- The entry of the budget rule. -/
def packagedBudget : PackagedEntry where
  ruleId := "initiative-budget-breakdown"
  displayName := "Initiative Budget Breakdown"
  description := "Business initiatives should carry a detailed budget breakdown."
  ruleType := "problem"
  checkerId := "53"
  markers := ["BusinessInitiative"]
  messages :=
    [{ id := "missingBreakdown"
       number := "01"
       symbol := "missing-budget-breakdown"
       template :=
        "Initiative '%(name)s' has a budget of %(budget)s but no budget breakdown." },
     { id := "breakdownMismatch"
       number := "02"
       symbol := "budget-breakdown-mismatch"
       template :=
        "Initiative '%(name)s' has budget %(budget)s but breakdown sums to "
          ++ "%(breakdownSum)s." },
     { id := "emptyBreakdown"
       number := "03"
       symbol := "empty-budget-breakdown"
       template :=
        "Initiative '%(name)s' has an empty budget breakdown." }]
  instructions :=
    "Add a budgetBreakdown mapping with cost categories (development, "
      ++ "infrastructure, staffing, ...) whose values sum to the total budget, "
      ++ "within one hundredth of the budget."
  references := []

/-- The entry of the timeline rule. -/
def packagedTimeline : PackagedEntry where
  ruleId := "initiative-timeline-validation"
  displayName := "Initiative Timeline Validation"
  description := "Initiative timelines should be valid and properly structured."
  ruleType := "problem"
  checkerId := "54"
  markers := ["BusinessInitiative"]
  messages :=
    [{ id := "missingTimeline"
       number := "01"
       symbol := "missing-initiative-timeline"
       template :=
        "Initiative '%(name)s' is missing a timeline." },
     { id := "invalidTimeline"
       number := "02"
       symbol := "invalid-initiative-timeline"
       template :=
        "Initiative '%(name)s' has an invalid timeline structure; timelines need "
          ++ "'start' and 'end' date fields." },
     { id := "endBeforeStart"
       number := "03"
       symbol := "timeline-end-before-start"
       template :=
        "Initiative '%(name)s' has timeline end date '%(end)s' before start date "
          ++ "'%(start)s'." },
     { id := "invalidDateFormat"
       number := "04"
       symbol := "invalid-timeline-date-format"
       template :=
        "Initiative '%(name)s' has invalid date format in timeline; use ISO 8601 "
          ++ "(YYYY-MM-DD)." }]
  instructions :=
    "Give the initiative a timeline mapping with 'start' and 'end' ISO 8601 "
      ++ "dates (YYYY-MM-DD) where end is not before start."
  references := ["ISO 8601 calendar dates"]

/-- The entry of a rule without messages. -/
def packagedReserved (ruleId displayName description checkerId marker : String) :
    PackagedEntry where
  ruleId := ruleId
  displayName := displayName
  description := description
  ruleType := "problem"
  checkerId := checkerId
  markers := [marker]
  messages := []
  instructions := "No checks are defined for this rule yet."
  references := []

/-- The entries of the packaged registry. -/
def packagedEntries : List PackagedEntry :=
  [packagedDuration, packagedValidation, packagedBudget, packagedTimeline,
   packagedReserved "metric-target-alignment" "Metric Target Alignment"
     "Metric targets should align with their baselines and thresholds." "55" "Metric",
   packagedReserved "witness-bdd-completeness" "Witness BDD Completeness"
     "Witnesses should describe complete given/when/then scenarios." "56" "Witness",
   packagedReserved "witness-mock-consistency" "Witness Mock Consistency"
     "Witness mocks should be declared consistently." "57" "Witness"]

/-- The key of the instructions that stand in for missing ones. -/
def fallbackKey : String := keyStart ++ "_default"

/-- The instructions that stand in for missing ones. -/
def packagedFallback : Value :=
  .table
    [("manual_instructions",
      .text
        ("Correct the marker metadata at the reported location so the declared "
          ++ "fields agree with each other."))]

/-- The registry that comes with the program. -/
def packaged : Registry :=
  ⟨.table ((fallbackKey, packagedFallback) :: packagedEntries.map PackagedEntry.keyed)⟩

end MarkerLint.Registry
