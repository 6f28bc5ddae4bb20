import MarkerLint.Proofs.Rounding
import MarkerLint.Proofs.UnreadFields

/-!
# Breakdowns that add up exactly

A breakdown of integers that adds up to a budget that is an integer differs from it by zero. Zero
exceeds the hundredth of the budget exactly if this is below zero, so a budget below zero is reported
not to match its breakdown, unless it is too large to be rounded.
-/

namespace MarkerLint

/-- The integers among the amounts of a breakdown. -/
def wholeParts (breakdown : Table Datum CodeText) : List Int :=
  breakdown.filterMap fun e =>
    match e.2 with
    | .integer i => some i
    | _ => none

namespace Amount

/-- Integers are added exactly. -/
theorem foldlM_add_exact (start : Int) (parts : List Int) :
    (parts.map exact).foldlM add (exact start) = some (exact (start + parts.sum)) := by
  induction parts generalizing start with
  | nil => rw [List.sum_nil, Int.add_zero]; rfl
  | cons i rest ih =>
      rw [List.sum_cons, ← Int.add_assoc, ← ih (start + i)]
      rfl

theorem sum_exact (parts : List Int) : sum (parts.map exact) = some (exact parts.sum) := by
  rw [sum, foldlM_add_exact, Int.zero_add]

theorem scale_exact (factor : Binary64) (i : Int) : (exact i).scale factor =
    if i.natAbs < Binary64.overflowBound then some ((Binary64.ofInt i).mul factor) else none := by
  rw [scale, approximate?]
  simp only [Binary64.isFinite_ofInt_iff]
  split
  · rfl
  · rfl

end Amount

namespace Rule

theorem budgetTolerance_eq : budgetTolerance = .finite false 5764607523034235 (-59) := by
  decide +kernel

/-- A hundredth of an integer is below zero exactly if the integer is. -/
theorem ltInt_zero_mul_budgetTolerance {i : Int} (h : i.natAbs < Binary64.overflowBound) :
    ((Binary64.ofInt i).mul budgetTolerance).ltInt 0 = decide (i < 0) := by
  rw [budgetTolerance_eq]
  by_cases hi : i = 0
  · subst hi
    exact Binary64.ltInt_zero_zero_mul false false _ _ _
  · obtain ⟨m, e, heq, hm, he⟩ := Binary64.exists_ofInt_eq hi (Binary64.isFinite_ofInt_iff.mpr h)
    rw [heq, Binary64.ltInt_zero_mul hm (by decide) (by omega), Bool.bne_false]

/-- An exact breakdown differs from its budget exactly if the budget is below zero; there is no
answer where it is too large to be rounded. -/
theorem breakdownDiffers?_exact (parts : List Int) :
    breakdownDiffers? (.exact parts.sum) (parts.map .exact) =
      if parts.sum.natAbs < Binary64.overflowBound
      then some (.exact parts.sum, decide (parts.sum < 0)) else none := by
  have hdifference : (Amount.exact parts.sum).sub (.exact parts.sum) = some (.exact 0) := by
    rw [← Int.sub_self parts.sum]
    rfl
  rw [breakdownDiffers?, Amount.sum_exact, Option.bind_eq_bind, Option.bind_some, hdifference,
    Option.bind_eq_bind, Option.bind_some, Amount.scale_exact]
  split
  · next hbound =>
      rw [← ltInt_zero_mul_budgetTolerance hbound]
      rfl
  · rfl

section Reported

variable {m : Marker} {breakdown : Table Datum CodeText} {b : Int} {name : CodeText}

/-- A budget that is reported although its breakdown adds up: it is below zero and can be rounded. -/
def IsMisjudged (b : Int) : Prop :=
  b < 0 ∧ b.natAbs < Binary64.overflowBound

instance : DecidablePred IsMisjudged :=
  fun _ => inferInstanceAs (Decidable (_ ∧ _))

/-- The amounts of a breakdown without floating-point numbers are its integers. -/
theorem filterMap_amountOf?_eq (hwhole : ∀ e ∈ breakdown, ∀ x, e.2 ≠ .float x) :
    (breakdown.filterMap fun e => amountOf? e.2) = (wholeParts breakdown).map .exact := by
  rw [wholeParts, List.map_filterMap]
  apply List.filterMap_congr
  intro e he
  cases hvalue : e.2 with
  | float x => exact absurd hvalue (hwhole e he x)
  | _ => rfl

theorem text?_of_isMisjudged (h : IsMisjudged b) : Decimal.text? b = .ok (Decimal.text b) :=
  Decimal.text?_eq_ok_iff.mpr
    ⟨Decimal.lt_of_lt_two_pow (by decide) (Nat.lt_trans h.2 (Binary64.carryBound_lt 970)), rfl⟩

theorem breakdownFindings_exact (name : CodeText)
    (hwhole : ∀ e ∈ breakdown, ∀ x, e.2 ≠ .float x) (hsum : (wholeParts breakdown).sum = b) :
    breakdownFindings name (.exact b) breakdown = .ok (if IsMisjudged b
      then [⟨"breakdownMismatch", [("name", name), ("budget", Decimal.text b),
        ("breakdownSum", Decimal.text b)]⟩] else []) := by
  rw [breakdownFindings, filterMap_amountOf?_eq hwhole, ← hsum, breakdownDiffers?_exact, hsum]
  by_cases hmisjudged : IsMisjudged b
  · have htext : (amountValue (.exact b)).amountText = .ok (Decimal.text b) :=
      map_eq_ok_iff.mpr ⟨_, text?_of_isMisjudged hmisjudged, rfl⟩
    rw [if_pos hmisjudged, if_pos hmisjudged.2, decide_eq_true hmisjudged.1]
    dsimp only
    rw [htext]
    rfl
  · rw [if_neg hmisjudged]
    split
    · next total hdiffers =>
        split at hdiffers
        · next hbound =>
            have hneg := (Prod.mk.inj (Option.some.inj hdiffers)).2
            exact absurd ⟨of_decide_eq_true hneg, hbound⟩ hmisjudged
        · cases hdiffers
    · rfl

theorem budgetFindings_eq {budget : Amount} (hname : (m.get "name").displayName = .ok name)
    (hbudget : amountOf? (m.get "budget") = some budget)
    (hbreakdown : m.get "budgetBreakdown" = .table breakdown) (hne : breakdown ≠ []) :
    budgetFindings m = breakdownFindings name budget breakdown := by
  obtain ⟨e, es, rfl⟩ := List.exists_cons_of_ne_nil hne
  rw [budgetFindings, hname, ok_bind, hbudget, hbreakdown]

/-- On an initiative with a budget that is an integer and a breakdown of integers that adds up to it,
a mismatch of the two is reported exactly if the budget is below zero, not too large to be rounded, and
the name can be written. It is the only thing that is found, and says that a number does not match
itself. -/
theorem exact_breakdown_reported_iff (hm : m.name = "BusinessInitiative")
    (hread : m.isParseable = true) (hbudget : m.get "budget" = .integer b)
    (hbreakdown : m.get "budgetBreakdown" = .table breakdown) (hne : breakdown ≠ [])
    (hwhole : ∀ e ∈ breakdown, ∀ x, e.2 ≠ .float x) (hsum : (wholeParts breakdown).sum = b) :
    (initiativeBudget.Reports m "breakdownMismatch" ↔ HasName m ∧ IsMisjudged b) ∧
    ∀ name, (m.get "name").displayName = .ok name →
      initiativeBudget.check [m] = .ok (if IsMisjudged b
        then [initiativeBudget.violation m ⟨"breakdownMismatch", [("name", name),
          ("budget", Decimal.text b), ("breakdownSum", Decimal.text b)]⟩] else []) := by
  have hmem : m.name ∈ initiativeBudget.markerNames := by simp [initiativeBudget, hm]
  have hamount : amountOf? (m.get "budget") = some (.exact b) := by rw [hbudget, amountOf?]
  have hfindings (name : CodeText) (hname : (m.get "name").displayName = .ok name) :=
    (budgetFindings_eq hname hamount hbreakdown hne).trans
      (breakdownFindings_exact name hwhole hsum)
  constructor
  · rw [reports_iff hmem, and_iff_right hread]
    constructor
    · rintro ⟨found, hfound, hmessage⟩
      obtain ⟨name, hname, -⟩ := bind_eq_ok_iff.mp hfound
      refine ⟨(Data.isWrittenIff_displayName _).exists_iff.mp ⟨name, hname⟩, ?_⟩
      by_contra hnot
      obtain rfl := Except.ok.inj (hfound.symm.trans (hfindings name hname))
      rw [if_neg hnot] at hmessage
      exact not_hasMessage_nil hmessage
    · rintro ⟨hwritable, hmisjudged⟩
      obtain ⟨name, hname⟩ := (Data.isWrittenIff_displayName _).1 hwritable
      refine ⟨_, hfindings name hname, ?_⟩
      rw [if_pos hmisjudged]
      exact hasMessage_singleton_iff.mpr rfl
  · intro name hname
    rw [check_singleton_of_findings hmem hread (hfindings name hname)]
    split
    · rfl
    · rfl

/-- An initiative with a budget and a breakdown of it in two integers, with a note between them. -/
def refundInitiative (budget first second : Int) : Marker where
  name := "BusinessInitiative"
  span := nowhere
  location := "a.py:1:1"
  reading := .metadata
    [("name", .text "Refund"), ("budget", .integer budget),
     ("budgetBreakdown", .table
       [("first", .integer first), ("note", .text "in two parts"), ("second", .integer second)])]

theorem exact_breakdown_reported_iff_refundInitiative :
    initiativeBudget.Reports (refundInitiative (-100) (-130) 30) "breakdownMismatch" ∧
      ¬ initiativeBudget.Reports (refundInitiative 100 130 (-30)) "breakdownMismatch" := by
  constructor
  · have hname : HasName (refundInitiative (-100) (-130) 30) :=
      (Data.isWrittenIff_displayName _).exists_iff.mp ⟨"Refund", rfl⟩
    obtain ⟨hreported, -⟩ := exact_breakdown_reported_iff (m := refundInitiative (-100) (-130) 30)
      rfl rfl rfl rfl (List.cons_ne_nil _ _) (by simp) rfl
    exact hreported.mpr ⟨hname, by decide +kernel⟩
  · obtain ⟨hreported, -⟩ := exact_breakdown_reported_iff (m := refundInitiative 100 130 (-30))
      rfl rfl rfl rfl (List.cons_ne_nil _ _) (by simp) rfl
    intro h
    obtain ⟨-, hneg, -⟩ := hreported.mp h
    exact absurd hneg (by decide)

/-- A refund in two parts that add up to it is reported as a mismatch. -/
theorem refund_reported_as_mismatch :
    ∃ m, markersOf "a.py" (markedClass "BusinessInitiative" [("budget", .integer (-100)),
        ("budgetBreakdown", .table [("a", .integer (-60)), ("b", .integer (-40))])]) = [m] ∧
      m.get "budget" = .integer (-100) ∧
      m.get "budgetBreakdown" = .table [("a", .integer (-60)), ("b", .integer (-40))] ∧
      initiativeBudget.check [m] = .ok [initiativeBudget.violation m ⟨"breakdownMismatch",
        [("name", "Unknown"), ("budget", "-100"), ("breakdownSum", "-100")]⟩] :=
  ⟨_, rfl, rfl, rfl, rfl⟩

end Reported

end Rule

end MarkerLint
