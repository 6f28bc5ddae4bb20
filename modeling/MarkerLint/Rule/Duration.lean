import MarkerLint.Rule

/-!
# Durations of actions

An estimated duration must agree with how an action is automated and with its scope. Durations are
ranked; one that is not in the ranking says nothing.
-/

namespace MarkerLint.Rule

/-- The rank of a duration, from an instant up. -/
def durationRank? (duration : String) : Option Nat :=
  Table.get? duration [("instant", 1), ("quick", 2), ("short", 3), ("medium", 4), ("long", 5)]

/-- The findings on an action with a ranked duration. -/
def rankedDurationFindings (m : Marker) (name : CodeText) (duration : String) (rank : Nat) :
    List Finding :=
  let automation := m.get "automationLevel"
  let scope := m.get "scope"
  (if automation.isText "fully-automated" && decide (rank > 2) then
      [⟨"automatedActionLongDuration", [("name", name), ("duration", duration)]⟩] else [])
    ++ (if automation.isText "manual" && rank == 1 then
      [⟨"manualActionInstant", [("name", name)]⟩] else [])
    ++ (if scope.isText "Atomic" && decide (rank > 3) then
      [⟨"atomicActionLongDuration", [("name", name), ("duration", duration)]⟩] else [])

/-- The findings on the duration of an action. -/
def durationFindings (m : Marker) : Except Fault (List Finding) :=
  match (m.get "estimatedDuration").string? with
  | none => .ok []
  | some duration =>
      match durationRank? duration with
      | none => .ok []
      | some rank => do
          let name ← (m.get "name").displayName
          .ok (rankedDurationFindings m name duration rank)

/-- Fully automated actions are at most quick, manual ones not instant, atomic ones at most short.
-/
def actionDuration : Rule where
  id := "action-duration-realism"
  type := .suggestion
  description := "Duration estimates should align with automation level and scope."
  markerNames := ["Action"]
  messageIds := ["automatedActionLongDuration", "manualActionInstant", "atomicActionLongDuration"]
  findings := durationFindings

end MarkerLint.Rule
