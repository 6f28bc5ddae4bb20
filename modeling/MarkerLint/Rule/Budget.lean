import MarkerLint.Number.Amount
import MarkerLint.Rule

/-!
# Budgets of initiatives

An initiative with a budget needs a breakdown of it whose amounts add up to the budget, within one
hundredth of it.
-/

namespace MarkerLint.Rule

/-- The amount that a value is, if it is a number. -/
def amountOf? : Datum → Option Amount
  | .integer i => some (.exact i)
  | .float x => some (.approximate x)
  | _ => none

/-- The value that an amount is. -/
def amountValue : Amount → Datum
  | .exact i => .integer i
  | .approximate x => .float x

/-- The part of a budget by which its breakdown may differ from it. -/
def budgetTolerance : Binary64 := .ofDecimal false 1 (-2)

/-- The sum of a breakdown and whether it differs from the budget by more than the tolerance; none
if an amount is too large to be compared. -/
def breakdownDiffers? (budget : Amount) (parts : List Amount) : Option (Amount × Bool) := do
  let total ← Amount.sum parts
  let difference ← total.sub budget
  let bound ← budget.scale budgetTolerance
  some (total, difference.abs.exceeds bound)

/-- The findings on a breakdown of a budget that has entries. -/
def breakdownFindings (name : CodeText) (budget : Amount) (breakdown : Table Datum CodeText) :
    Except Fault (List Finding) :=
  match breakdownDiffers? budget (breakdown.filterMap fun e => amountOf? e.2) with
  | some (total, true) => do
      let budgetText ← (amountValue budget).amountText
      let sumText ← (amountValue total).amountText
      .ok [⟨"breakdownMismatch",
        [("name", name), ("budget", budgetText), ("breakdownSum", sumText)]⟩]
  | _ => .ok []

/-- The findings on the budget of an initiative. -/
def budgetFindings (m : Marker) : Except Fault (List Finding) := do
  let name ← (m.get "name").displayName
  let breakdown := m.get "budgetBreakdown"
  match amountOf? (m.get "budget"), breakdown with
  | some budget, .table (e :: es) => breakdownFindings name budget (e :: es)
  | _, .table [] => .ok [⟨"emptyBreakdown", [("name", name)]⟩]
  | some budget, _ =>
      if breakdown.isBlank then do
        let budgetText ← (amountValue budget).amountText
        .ok [⟨"missingBreakdown", [("name", name), ("budget", budgetText)]⟩]
      else .ok []
  | none, _ => .ok []

/-- A budget has a breakdown that adds up to it. -/
def initiativeBudget : Rule where
  id := "initiative-budget-breakdown"
  type := .problem
  description := "Business initiatives should carry a detailed budget breakdown."
  markerNames := ["BusinessInitiative"]
  messageIds := ["missingBreakdown", "breakdownMismatch", "emptyBreakdown"]
  findings := budgetFindings

end MarkerLint.Rule
