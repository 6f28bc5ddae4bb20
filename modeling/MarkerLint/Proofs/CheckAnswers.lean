import MarkerLint.Proofs.DeclaredMessages
import MarkerLint.Proofs.DigitLimit

/-!
# Checks that have an answer

The only reason for which a check of the catalog has no answer is an integer that is too long to be
written. A name has a text unless it holds such an integer at some depth, and an amount unless it is
one, which no floating-point number of the format is. What a rule has to write depends on the marker:
each rule of the catalog comes with its own condition, and a check has an answer exactly if every
marker that the rule looks at meets it.
-/

namespace MarkerLint

section Written

variable {α β : Type} {p q : Prop}

/-- The answer is there exactly if the condition holds; otherwise it is refused because of an integer
beyond the digit limit. -/
def IsWrittenIff (answer : Except Fault α) (p : Prop) : Prop :=
  (p → ∃ a, answer = .ok a) ∧ (¬ p → answer = .error .tooManyDigits)

theorem isWrittenIff_ok (a : α) (h : p) : IsWrittenIff (.ok a) p :=
  ⟨fun _ => ⟨a, rfl⟩, fun hn => absurd h hn⟩

theorem IsWrittenIff.congr {answer : Except Fault α} (h : IsWrittenIff answer p) (hpq : p ↔ q) :
    IsWrittenIff answer q :=
  ⟨fun hq => h.1 (hpq.mpr hq), fun hq => h.2 (hpq.not.mpr hq)⟩

theorem IsWrittenIff.exists_iff {answer : Except Fault α} (h : IsWrittenIff answer p) :
    (∃ a, answer = .ok a) ↔ p := by
  constructor
  · rintro ⟨a, ha⟩
    by_contra hp
    cases ha.symm.trans (h.2 hp)
  · exact h.1

/-- An answer in two steps needs what each of them needs. -/
theorem IsWrittenIff.bind {x : Except Fault α} {f : α → Except Fault β} (hx : IsWrittenIff x p)
    (hf : ∀ a, IsWrittenIff (f a) q) : IsWrittenIff (x >>= f) (p ∧ q) := by
  constructor
  · rintro ⟨hp, hq⟩
    obtain ⟨a, rfl⟩ := hx.1 hp
    obtain ⟨b, hb⟩ := (hf a).1 hq
    exact ⟨b, hb⟩
  · intro hn
    by_cases hp : p
    · obtain ⟨a, rfl⟩ := hx.1 hp
      exact (hf a).2 fun hq => hn ⟨hp, hq⟩
    · rw [hx.2 hp]
      rfl

/-- The last step of an answer may add what always is there. -/
theorem IsWrittenIff.bind_ok {x : Except Fault α} (hx : IsWrittenIff x p) (f : α → β) :
    IsWrittenIff (x >>= fun a => .ok (f a)) p :=
  (hx.bind fun a => isWrittenIff_ok (f a) trivial).congr (and_iff_left trivial)

theorem IsWrittenIff.map {x : Except Fault α} (hx : IsWrittenIff x p) (f : α → β) :
    IsWrittenIff (f <$> x) p := by
  constructor
  · intro hp
    obtain ⟨a, rfl⟩ := hx.1 hp
    exact ⟨f a, rfl⟩
  · intro hn
    rw [hx.2 hn]
    rfl

end Written

theorem Decimal.isWrittenIff_text? (i : Int) :
    IsWrittenIff (text? i) (i.natAbs < 10 ^ digitLimit) := by
  constructor
  · intro h
    exact ⟨text i, text?_eq_ok_iff.mpr ⟨h, rfl⟩⟩
  · intro h
    exact text?_of_le (Nat.not_lt.mp h)

namespace Data

variable {τ μ : Type}

/-- The value holds the integer, at any depth. -/
inductive Holds (i : Int) : Data τ μ → Prop
  | integer : Holds i (.integer i)
  | item {items : List (Data τ μ)} {v : Data τ μ} : v ∈ items → Holds i v → Holds i (.list items)
  | entry {entries : List (τ × Data τ μ)} {e : τ × Data τ μ} :
      e ∈ entries → Holds i e.2 → Holds i (.table entries)

/-- Every integer that the value holds is within the digit limit. -/
def IsWritable (v : Data τ μ) : Prop :=
  ∀ i, v.Holds i → i.natAbs < 10 ^ digitLimit

theorem isWritable_integer_iff {i : Int} :
    (integer i : Data τ μ).IsWritable ↔ i.natAbs < 10 ^ digitLimit := by
  constructor
  · intro h
    exact h i .integer
  · rintro h j ⟨⟩
    exact h

theorem isWritable_list_iff {items : List (Data τ μ)} :
    (Data.list items).IsWritable ↔ ∀ v ∈ items, v.IsWritable := by
  constructor
  · intro h v hv i hi
    exact h i (.item hv hi)
  · rintro h i (_ | ⟨hv, hi⟩)
    exact h _ hv i hi

theorem isWritable_table_iff {entries : List (τ × Data τ μ)} :
    (Data.table entries).IsWritable ↔ ∀ e ∈ entries, e.2.IsWritable := by
  constructor
  · intro h e he i hi
    exact h i (.entry he hi)
  · rintro h i (_ | _ | ⟨he, hi⟩)
    exact h _ he i hi

/-- A value that is not given holds no integer but zero. -/
theorem isWritable_of_not_isGiven [TextLike τ] {v : Data τ μ} (h : v.isGiven = false) :
    v.IsWritable := by
  cases v with
  | integer i =>
      have hzero : i = 0 := by simpa [isGiven] using h
      rw [isWritable_integer_iff, hzero]
      exact Nat.pow_pos (by decide)
  | list items =>
      obtain rfl : items = [] := by simpa [isGiven] using h
      exact isWritable_list_iff.mpr (List.forall_mem_nil _)
  | table entries =>
      obtain rfl : entries = [] := by simpa [isGiven] using h
      exact isWritable_table_iff.mpr (List.forall_mem_nil _)
  | null => rintro i ⟨⟩
  | boolean b => rintro i ⟨⟩
  | text s => rintro i ⟨⟩
  | float x => rintro i ⟨⟩
  | moment m => rintro i ⟨⟩

variable [TextLike τ] [MomentLike μ]

mutual

/-- A value has a text inside another exactly if it is writable. -/
theorem isWrittenIff_quoted (r : Text.Quoted.Repertoire) :
    ∀ v : Data τ μ, IsWrittenIff (quoted r v) v.IsWritable
  | .null => isWrittenIff_ok _ (by rintro i ⟨⟩)
  | .boolean _ => isWrittenIff_ok _ (by rintro i ⟨⟩)
  | .text _ => isWrittenIff_ok _ (by rintro i ⟨⟩)
  | .float _ => isWrittenIff_ok _ (by rintro i ⟨⟩)
  | .moment _ => isWrittenIff_ok _ (by rintro i ⟨⟩)
  | .integer i => by
      rw [quoted]
      exact (Decimal.isWrittenIff_text? i).congr isWritable_integer_iff.symm
  | .list items => by
      rw [quoted]
      exact ((isWrittenIff_quotedItems r items).bind_ok _).congr isWritable_list_iff.symm
  | .table entries => by
      rw [quoted]
      exact ((isWrittenIff_quotedEntries r entries).bind_ok _).congr isWritable_table_iff.symm

theorem isWrittenIff_quotedItems (r : Text.Quoted.Repertoire) :
    ∀ items : List (Data τ μ), IsWrittenIff (quotedItems r items) (∀ v ∈ items, v.IsWritable)
  | [] => isWrittenIff_ok _ (List.forall_mem_nil _)
  | v :: rest => by
      rw [quotedItems, List.forall_mem_cons]
      exact (isWrittenIff_quoted r v).bind fun _ => (isWrittenIff_quotedItems r rest).bind_ok _

theorem isWrittenIff_quotedEntries (r : Text.Quoted.Repertoire) :
    ∀ entries : List (τ × Data τ μ),
      IsWrittenIff (quotedEntries r entries) (∀ e ∈ entries, e.2.IsWritable)
  | [] => isWrittenIff_ok _ (List.forall_mem_nil _)
  | (_, v) :: rest => by
      rw [quotedEntries, List.forall_mem_cons]
      exact (isWrittenIff_quoted r v).bind fun _ => (isWrittenIff_quotedEntries r rest).bind_ok _

end

theorem isWrittenIff_display (v : Data τ μ) : IsWrittenIff v.display v.IsWritable := by
  rw [display.eq_def]
  split
  · exact isWrittenIff_ok _ (by rintro i ⟨⟩)
  · exact isWrittenIff_ok _ (by rintro i ⟨⟩)
  · exact (isWrittenIff_quoted .visible _).map _

/-- A name has a text exactly if it is writable. -/
theorem isWrittenIff_displayName (v : Data τ μ) : IsWrittenIff v.displayName v.IsWritable := by
  rw [displayName]
  split
  · exact isWrittenIff_display v
  · next h => exact isWrittenIff_ok _ (isWritable_of_not_isGiven (Bool.not_eq_true _ ▸ h))

end Data

/-- The integer that an amount is, if it has no fraction. -/
def Amount.whole? : Amount → Option Int
  | .exact i => some i
  | .approximate x => x.toInt?

/-- The amount is within the digit limit, if it is an integer. -/
def Amount.IsWritable (a : Amount) : Prop :=
  ∀ i, a.whole? = some i → i.natAbs < 10 ^ digitLimit

/-- The number is one of the 64-bit format. -/
def Binary64.IsInFormat : Binary64 → Prop
  | .finite _ significand exponent => significand < 2 ^ 53 ∧ exponent ≤ 971
  | _ => True

theorem Binary64.natAbs_signed (negative : Bool) (m : Nat) :
    (Binary64.signed negative m).natAbs = m := by
  cases negative with
  | false => exact Int.natAbs_natCast m
  | true => exact (Int.natAbs_neg m).trans (Int.natAbs_natCast m)

theorem Decimal.lt_of_lt_two_pow {n k : Nat} (hk : k ≤ digitLimit) (h : n < 2 ^ k) :
    n < 10 ^ digitLimit :=
  calc n < 2 ^ k := h
    _ ≤ 10 ^ k := Nat.pow_le_pow_left (by decide) k
    _ ≤ 10 ^ digitLimit := Nat.pow_le_pow_right (by decide) hk

/-- No number of the format is too long to be written: its whole part has at most 1024 bits. -/
theorem Amount.isWritable_approximate {x : Binary64} (h : x.IsInFormat) :
    (Amount.approximate x).IsWritable := by
  intro i hi
  rw [whole?] at hi
  cases x with
  | infinite negative => cases hi
  | nan => cases hi
  | finite negative m e =>
      obtain ⟨hm, he⟩ := h
      -- A multiple of a power of two has 53 bits and those of the power; a fraction only loses bits.
      rw [Binary64.toInt?] at hi
      split at hi
      · obtain rfl := Option.some.inj hi
        have hbits : m * powerOfTwo e < 2 ^ (53 + e.toNat) := by
          rw [Nat.pow_add]
          exact Nat.mul_lt_mul_of_pos_right hm (powerOfTwo_pos e)
        have hshort : 53 + e.toNat ≤ digitLimit := by
          rw [digitLimit]
          omega
        rw [Binary64.natAbs_signed]
        exact Decimal.lt_of_lt_two_pow hshort hbits
      · split at hi
        · obtain rfl := Option.some.inj hi
          rw [Binary64.natAbs_signed]
          exact Decimal.lt_of_lt_two_pow (by decide) (Nat.lt_of_le_of_lt (Nat.div_le_self _ _) hm)
        · cases hi

theorem Rule.isWrittenIff_amountText (a : Amount) :
    IsWrittenIff (amountValue a).amountText a.IsWritable := by
  cases a with
  | exact i =>
      apply ((Decimal.isWrittenIff_text? i).map _).congr
      simp [Amount.IsWritable, Amount.whole?]
  | approximate x =>
      rw [amountValue, Data.amountText]
      cases hx : x.toInt? with
      | some i =>
          apply ((Decimal.isWrittenIff_text? i).map _).congr
          simp [Amount.IsWritable, Amount.whole?, hx]
      | none => exact isWrittenIff_ok _ (by simp [Amount.IsWritable, Amount.whole?, hx])

namespace Rule

section Conditions

/-- The name of the marker can be written. -/
def HasName (m : Marker) : Prop :=
  (m.get "name").IsWritable

/-- The action has a duration of the ranking. -/
def HasRank (m : Marker) : Prop :=
  ∃ (duration : String) (rank : Nat), m.get "estimatedDuration" = .text duration ∧
    durationRank? duration = some rank

/-- The behaviour has preconditions. -/
def HasPreconditions (m : Marker) : Prop :=
  ∃ p ps, m.get "preconditions" = .list (p :: ps)

/-- What has to be said about the budget of the initiative can be written: the budget where it has no
breakdown, and the budget and the sum of its breakdown where they differ. -/
structure HasAmounts (m : Marker) (budget : Amount) : Prop where
  missing : (m.get "budgetBreakdown").isBlank = true → budget.IsWritable
  mismatch : ∀ breakdown total, m.get "budgetBreakdown" = .table breakdown → breakdown ≠ [] →
    breakdownDiffers? budget (breakdown.filterMap fun e => amountOf? e.2) = some (total, true) →
      budget.IsWritable ∧ total.IsWritable

/-- Every rule of the catalog, with what it must be able to write about a marker. -/
def requirements : List (Rule × (Marker → Prop)) :=
  [(actionDuration, fun m => HasRank m → HasName m),
   (behaviorValidation, fun m => HasPreconditions m → HasName m),
   (initiativeBudget, fun m => HasName m ∧
      ∀ budget, amountOf? (m.get "budget") = some budget → HasAmounts m budget),
   (initiativeTimeline, HasName),
   (metricTarget, fun _ => True),
   (witnessScenario, fun _ => True),
   (witnessMocks, fun _ => True)]

end Conditions

theorem isWrittenIff_durationFindings (m : Marker) :
    IsWrittenIff (durationFindings m) (HasRank m → HasName m) := by
  rw [durationFindings]
  split
  · next hnone =>
      apply isWrittenIff_ok
      rintro ⟨duration, rank, hduration, -⟩
      cases hnone.symm.trans (Data.string?_eq_some_iff.mpr hduration)
  · next duration hduration =>
      have htext := Data.string?_eq_some_iff.mp hduration
      split
      · next hnone =>
          apply isWrittenIff_ok
          rintro ⟨other, rank, hother, hrank⟩
          obtain rfl := CodeText.ofString_inj.mp (Data.text.inj (htext.symm.trans hother))
          cases hnone.symm.trans hrank
      · next rank hrank =>
          apply ((Data.isWrittenIff_displayName _).bind_ok _).congr
          exact ⟨fun h _ => h, fun h => h ⟨duration, rank, htext, hrank⟩⟩

theorem isWrittenIff_validationFindings (m : Marker) :
    IsWrittenIff (validationFindings m) (HasPreconditions m → HasName m) := by
  rw [validationFindings]
  split
  · next p ps hlist =>
      apply ((Data.isWrittenIff_displayName _).bind_ok _).congr
      exact ⟨fun h _ => h, fun h => h ⟨p, ps, hlist⟩⟩
  · next hother =>
      apply isWrittenIff_ok
      rintro ⟨p, ps, hlist⟩
      exact absurd hlist (hother p ps)

theorem isWrittenIff_timelineFindings (m : Marker) :
    IsWrittenIff (timelineFindings m) (HasName m) :=
  (Data.isWrittenIff_displayName _).map _

theorem isWrittenIff_breakdownFindings (name : CodeText) (budget : Amount)
    (breakdown : Table Datum CodeText) :
    IsWrittenIff (breakdownFindings name budget breakdown)
      (∀ total,
        breakdownDiffers? budget (breakdown.filterMap fun e => amountOf? e.2) = some (total, true) →
          budget.IsWritable ∧ total.IsWritable) := by
  rw [breakdownFindings]
  split
  · next total hdiffers =>
      apply ((isWrittenIff_amountText budget).bind fun _ =>
        (isWrittenIff_amountText total).bind_ok _).congr
      constructor
      · intro h other hother
        obtain ⟨rfl, -⟩ := Prod.mk.inj (Option.some.inj (hdiffers.symm.trans hother))
        exact h
      · intro h
        exact h total hdiffers
  · next hother =>
      apply isWrittenIff_ok
      intro total hdiffers
      exact absurd hdiffers (hother total)

section Amounts

variable {m : Marker} {budget : Amount}

/-- A breakdown with entries has to be written where it does not add up. -/
theorem hasAmounts_of_entries {breakdown : Table Datum CodeText}
    (h : m.get "budgetBreakdown" = .table breakdown) (hne : breakdown ≠ []) :
    HasAmounts m budget ↔ ∀ total,
      breakdownDiffers? budget (breakdown.filterMap fun e => amountOf? e.2) = some (total, true) →
        budget.IsWritable ∧ total.IsWritable := by
  constructor
  · intro hamounts total hdiffers
    exact hamounts.mismatch breakdown total h hne hdiffers
  · intro hwritable
    constructor
    · intro hblank
      rw [h] at hblank
      cases hblank
    · intro other total hother _ hdiffers
      obtain rfl := Data.table.inj (h.symm.trans hother)
      exact hwritable total hdiffers

/-- About an empty breakdown no amount is written. -/
theorem hasAmounts_of_empty (h : m.get "budgetBreakdown" = .table []) : HasAmounts m budget where
  missing := by
    intro hblank
    rw [h] at hblank
    cases hblank
  mismatch := by
    intro breakdown total hother hne _
    obtain rfl := Data.table.inj (h.symm.trans hother)
    exact absurd rfl hne

/-- Without a breakdown the budget has to be written, if nothing else stands in its place. -/
theorem hasAmounts_of_not_table (h : ∀ breakdown, m.get "budgetBreakdown" ≠ .table breakdown) :
    HasAmounts m budget ↔ ((m.get "budgetBreakdown").isBlank = true → budget.IsWritable) := by
  constructor
  · intro hamounts
    exact hamounts.missing
  · intro hmissing
    exact ⟨hmissing, fun breakdown _ hother => absurd hother (h breakdown)⟩

theorem isWrittenIff_budgetFindings (m : Marker) :
    IsWrittenIff (budgetFindings m) (HasName m ∧
      ∀ budget, amountOf? (m.get "budget") = some budget → HasAmounts m budget) := by
  apply (Data.isWrittenIff_displayName _).bind
  intro name
  dsimp only
  -- The cases are those of the check: entries that may not add up, no entries, no table, no budget.
  split
  · next budget e es hbudget hbreakdown =>
      apply (isWrittenIff_breakdownFindings name budget (e :: es)).congr
      simp only [hbudget, Option.some.injEq, forall_eq',
        hasAmounts_of_entries hbreakdown (List.cons_ne_nil e es)]
  · next hbreakdown =>
      apply isWrittenIff_ok
      intro budget _
      exact hasAmounts_of_empty hbreakdown
  · next budget hbudget hentry hempty =>
      have htable (breakdown : Table Datum CodeText) :
          m.get "budgetBreakdown" ≠ .table breakdown := by
        intro hentries
        cases breakdown with
        | nil => exact hempty hentries
        | cons e es => exact hentry e es hentries
      simp only [hbudget, Option.some.injEq, forall_eq', hasAmounts_of_not_table htable]
      split
      · next hblank =>
          apply ((isWrittenIff_amountText budget).bind_ok _).congr
          rw [forall_prop_of_true hblank]
      · next hblank =>
          apply isWrittenIff_ok
          intro h
          exact absurd h hblank
  · next hnone _ =>
      apply isWrittenIff_ok
      intro budget hbudget
      cases hnone.symm.trans hbudget

end Amounts

theorem isWrittenIff_checkMarker {rule : Rule} {p : Marker → Prop}
    (h : ∀ m, IsWrittenIff (rule.findings m) (p m)) (m : Marker) :
    IsWrittenIff (rule.checkMarker m) (p m) :=
  (h m).map _

/-- A check has an answer exactly if each marker that the rule looks at meets its condition. -/
theorem isWrittenIff_check {rule : Rule} {p : Marker → Prop}
    (h : ∀ m, IsWrittenIff (rule.findings m) (p m)) (markers : List Marker) :
    IsWrittenIff (rule.check markers) (∀ m ∈ markers, rule.understands m = true → p m) := by
  induction markers with
  | nil => exact isWrittenIff_ok _ (List.forall_mem_nil _)
  | cons m rest ih =>
      rw [check]
      split
      · next hm =>
          apply ((isWrittenIff_checkMarker h m).bind fun _ => ih.bind_ok _).congr
          rw [List.forall_mem_cons, forall_prop_of_true hm]
      · next hm =>
          apply ih.congr
          rw [List.forall_mem_cons, forall_prop_of_false hm, true_and]

theorem isWrittenIff_findings :
    ∀ e ∈ requirements, ∀ m, IsWrittenIff (e.1.findings m) (e.2 m) := by
  simp only [requirements, List.forall_mem_cons]
  refine ⟨isWrittenIff_durationFindings, isWrittenIff_validationFindings,
    isWrittenIff_budgetFindings, isWrittenIff_timelineFindings, ?_, ?_, ?_, List.forall_mem_nil _⟩
  all_goals exact fun _ => isWrittenIff_ok _ trivial

/-- Each rule of the catalog has an answer on a class exactly if it can write about every marker that
it looks at what it has to write: the name, and of a budget the amounts that are missing or do not
add up. Otherwise it fails because of an integer that is too long; a floating-point number, be it
infinite or none at all, never is. -/
theorem checks_answer_iff (path : String) (d : Source.Declaration) :
    requirements.map Prod.fst = catalog ∧
      (∀ e ∈ requirements, IsWrittenIff (e.1.check (markersOf path d))
        (∀ m ∈ markersOf path d, e.1.understands m = true → e.2 m)) ∧
      ∀ x : Binary64, x.IsInFormat → (Amount.approximate x).IsWritable := by
  refine ⟨rfl, ?_, ?_⟩
  · intro e he
    exact isWrittenIff_check (isWrittenIff_findings e he) (markersOf path d)
  · intro x hx
    exact Amount.isWritable_approximate hx

/-- A class with an initiative whose budget is one and whose breakdown has one part. -/
def brokenDown (part : Nat) : Source.Declaration :=
  markedClass "BusinessInitiative"
    [("budget", .integer 1), ("budgetBreakdown", .table [("a", .integer part)])]

theorem markersOf_brokenDown (path : String) (part : Nat) :
    ∃ m, markersOf path (brokenDown part) = [m] ∧ initiativeBudget.understands m = true ∧
      m.get "budget" = .integer 1 ∧ m.get "budgetBreakdown" = .table [("a", .integer part)] :=
  ⟨_, rfl, rfl, rfl, rfl⟩

/-- A part beyond the digit limit differs from the budget, and the check fails on saying so. -/
theorem check_fails_on_long_part :
    initiativeBudget ∈ catalog ∧
      initiativeBudget.check (markersOf "a.py" (brokenDown (10 ^ digitLimit))) =
        .error .tooManyDigits := by
  have hdiffers : breakdownDiffers? (.exact 1) [.exact (10 ^ digitLimit : Nat)] =
      some (.exact (10 ^ digitLimit : Nat), true) := by decide +kernel
  obtain ⟨m, hmarkers, hunderstood, hbudget, hbreakdown⟩ :=
    markersOf_brokenDown "a.py" (10 ^ digitLimit)
  refine ⟨by simp [catalog], ?_⟩
  rw [hmarkers]
  apply (isWrittenIff_check isWrittenIff_budgetFindings [m]).2
  intro h
  have hamounts := (h m List.mem_cons_self hunderstood).2 (.exact 1) (by rw [hbudget]; rfl)
  have hshort := (hamounts.mismatch _ _ hbreakdown (List.cons_ne_nil _ _) hdiffers).2
  exact absurd (hshort _ rfl) (Nat.lt_irrefl _)

end Rule

end MarkerLint
