import Mathlib.Data.List.DropRight
import Mathlib.Data.Nat.Cast.Order.Field
import MarkerLint.Number.Digits
import MarkerLint.Number.Shortest
import MarkerLint.Proofs.NormalForm

/-!
# Shortest digits

The digits of a number in normal form are read back as that number. A candidate is accepted only if
it is rounded to the number, and among the candidates with seventeen digits there is one: it is at
most half a unit of its last place away, which is less than half a unit of the number.
-/

namespace MarkerLint

namespace Digits

theorem ofDigitsFrom_eq (base acc : Nat) (ds : List Nat) :
    Decimal.ofDigitsFrom base acc ds = acc * base ^ ds.length + Decimal.ofDigits base ds := by
  induction ds generalizing acc with
  | nil => simp [Decimal.ofDigitsFrom, Decimal.ofDigits]
  | cons d ds ih =>
      have hstep (acc : Nat) : Decimal.ofDigitsFrom base acc (d :: ds) =
          (acc * base + d) * base ^ ds.length + Decimal.ofDigits base ds :=
        ih (acc * base + d)
      rw [Decimal.ofDigits, hstep, hstep, List.length_cons, Nat.pow_succ', Nat.zero_mul, Nat.zero_add,
        Nat.add_mul, Nat.mul_assoc, Nat.add_assoc]

/-- Digits that follow others count after a power of the base. -/
theorem number_append (base : Nat) (a b : List Char) :
    number base (a ++ b) = number base a * base ^ b.length + number base b := by
  have hfrom := ofDigitsFrom_eq base (number base a) (b.map valueOf)
  rw [List.length_map] at hfrom
  rw [number, Decimal.ofDigits, Decimal.ofDigitsFrom, List.map_append, List.foldl_append]
  exact hfrom

theorem number_replicate_zero (base count : Nat) : number base (List.replicate count '0') = 0 := by
  induction count with
  | zero => rfl
  | succ count ih =>
      have hzero : number base ['0'] = 0 := Nat.zero_mul base
      rw [List.replicate_succ', number_append, ih, hzero, Nat.zero_mul]

/-- The decimal digits of a number are those of the number. -/
theorem number_toDigits (n : Nat) : number 10 (Nat.toDigits 10 n) = n := by
  have hfold (ds : List Char) (acc : Nat) (hds : ∀ c ∈ ds, Text.isAsciiDigit c = true) :
      Decimal.ofDigitsFrom 10 acc (ds.map valueOf) = Nat.ofDigitChars 10 ds acc := by
    induction ds generalizing acc with
    | nil => rfl
    | cons c ds ih =>
        have hc : valueOf c = c.toNat - '0'.toNat := if_pos (hds c List.mem_cons_self)
        rw [List.map_cons, Decimal.ofDigitsFrom, List.foldl_cons, Nat.ofDigitChars_cons, hc,
          Nat.mul_comm 10]
        exact ih _ fun d hd => hds d (List.mem_cons_of_mem _ hd)
  rw [number, Decimal.ofDigits, hfold _ 0 fun c hc => Decimal.isAsciiDigit_of_mem_toDigits hc]
  exact Nat.ofDigitChars_toDigits (by decide) (by decide)

end Digits

namespace Shortest

open Binary64

section Candidates

variable {m n : Nat} {e k : Int}

/-- A quarter of a unit, as a numerator and a denominator. -/
def quarter (e : Int) : Nat × Nat :=
  if 0 ≤ e - 2 then (powerOfTwo (e - 2), 1) else (1, powerOfTwo (2 - e))

theorem quarter_snd_pos (e : Int) : 0 < (quarter e).2 := by
  rw [quarter]
  split
  · exact Nat.one_pos
  · exact powerOfTwo_pos _

theorem mul_quarter_div (x : Nat) (e : Int) :
    ((x * (quarter e).1 : Nat) : ℚ) / (quarter e).2 = x * 2 ^ (e - 2) := by
  rw [quarter]
  split
  · next he => rw [Nat.cast_mul, cast_powerOfTwo he, Nat.cast_one, div_one]
  · next he =>
      rw [Nat.mul_one, cast_powerOfTwo (by omega), ← neg_sub, zpow_neg, div_inv_eq_mul]

theorem interval_of_eq (m : Nat) (e : Int) : Interval.of m e =
    ⟨lowQuarters m e * (quarter e).1, 4 * m * (quarter e).1, (4 * m + 2) * (quarter e).1,
      (quarter e).2, m % 2 == 0⟩ := by
  have hlow : (if decide (m = powerOfTwo 52) && decide (e > -1074) then 4 * m - 1 else 4 * m - 2) =
      lowQuarters m e := by
    rw [lowQuarters]
    exact if_congr (by rw [Bool.and_eq_true, decide_eq_true_iff, decide_eq_true_iff]; rfl) rfl rfl
  rw [Interval.of]
  dsimp only
  rw [hlow]
  rfl

/-- The bounds that a decimal is compared with. -/
def scaledDecimal (n : Nat) (k : Int) (den : Nat) : Nat × Nat :=
  if 0 ≤ k then (n * powerOfTen k * den, 1) else (n * den, powerOfTen (-k))

theorem contains_eq (i : Interval) (n : Nat) (k : Int) : i.contains n k =
    if i.closed then
      decide (i.low * (scaledDecimal n k i.den).2 ≤ (scaledDecimal n k i.den).1) &&
        decide ((scaledDecimal n k i.den).1 ≤ i.high * (scaledDecimal n k i.den).2)
    else
      decide (i.low * (scaledDecimal n k i.den).2 < (scaledDecimal n k i.den).1) &&
        decide ((scaledDecimal n k i.den).1 < i.high * (scaledDecimal n k i.den).2) :=
  rfl

theorem scaledDecimal_snd_pos (n : Nat) (k : Int) (den : Nat) : 0 < (scaledDecimal n k den).2 := by
  rw [scaledDecimal]
  split
  · exact Nat.one_pos
  · exact powerOfTen_pos _

theorem scaledDecimal_div (n : Nat) (k : Int) {den : Nat} (hden : 0 < den) :
    ((scaledDecimal n k den).1 : ℚ) / (scaledDecimal n k den).2 / den = n * 10 ^ k := by
  have hden' : (den : ℚ) ≠ 0 := by exact_mod_cast hden.ne'
  rw [scaledDecimal]
  split
  · next hk =>
      rw [Nat.cast_one, div_one, Nat.cast_mul, Nat.cast_mul, cast_powerOfTen hk,
        mul_div_cancel_right₀ _ hden']
  · next hk =>
      rw [cast_powerOfTen (by omega), zpow_neg, div_inv_eq_mul, Nat.cast_mul, mul_right_comm,
        mul_div_cancel_right₀ _ hden']

theorem mul_le_scaledDecimal_iff {b den : Nat} (hden : 0 < den) :
    b * (scaledDecimal n k den).2 ≤ (scaledDecimal n k den).1 ↔ (b : ℚ) / den ≤ n * 10 ^ k := by
  have hpos : (0 : ℚ) < (scaledDecimal n k den).2 := Nat.cast_pos.mpr (scaledDecimal_snd_pos n k den)
  rw [← scaledDecimal_div n k hden, div_le_div_iff_of_pos_right (Nat.cast_pos.mpr hden),
    le_div_iff₀ hpos, ← Nat.cast_mul, Nat.cast_le]

theorem scaledDecimal_le_mul_iff {b den : Nat} (hden : 0 < den) :
    (scaledDecimal n k den).1 ≤ b * (scaledDecimal n k den).2 ↔ (n : ℚ) * 10 ^ k ≤ (b : ℚ) / den := by
  have hpos : (0 : ℚ) < (scaledDecimal n k den).2 := Nat.cast_pos.mpr (scaledDecimal_snd_pos n k den)
  rw [← scaledDecimal_div n k hden, div_le_div_iff_of_pos_right (Nat.cast_pos.mpr hden),
    div_le_iff₀ hpos, ← Nat.cast_mul, Nat.cast_le]

/-- The candidates are the decimals that are rounded to the number. -/
theorem contains_iff : (Interval.of m e).contains n k = true ↔ RoundsTo m e (n * 10 ^ k) := by
  have hden := quarter_snd_pos e
  rw [contains_eq, interval_of_eq]
  dsimp only
  split
  · next heven =>
      have heven : m % 2 = 0 := by simpa using heven
      rw [Bool.and_eq_true, decide_eq_true_iff, decide_eq_true_iff, mul_le_scaledDecimal_iff hden,
        scaledDecimal_le_mul_iff hden, mul_quarter_div, mul_quarter_div]
      exact ⟨fun h => ⟨h.1, h.2, by omega⟩, fun h => ⟨h.low_le, h.le_high⟩⟩
  · next hodd =>
      have hodd : m % 2 = 1 := by simpa using hodd
      rw [Bool.and_eq_true, decide_eq_true_iff, decide_eq_true_iff, ← Nat.not_le, ← Nat.not_le,
        mul_le_scaledDecimal_iff hden, scaledDecimal_le_mul_iff hden, mul_quarter_div,
        mul_quarter_div, not_le, not_le]
      exact ⟨fun h => ⟨h.1.le, h.2.le, fun _ => h⟩, fun h => h.lt_of_odd hodd⟩

end Candidates

section Existence

variable {m n num den : Nat} {e k : Int}

theorem ten_pow_le_of_length_digitsOf (hn : 0 < n) : 10 ^ ((digitsOf n).length - 1) ≤ n := by
  rcases Nat.eq_zero_or_pos ((digitsOf n).length - 1) with hzero | hpos
  · rw [hzero]
    exact hn
  · rw [← Nat.not_lt, ← Nat.length_toDigits_le_iff (by decide) hpos, ← digitsOf]
    omega

theorem lt_ten_pow_length_digitsOf (n : Nat) : n < 10 ^ (digitsOf n).length :=
  (Nat.length_toDigits_le_iff (by decide) (List.length_pos_iff.mpr Nat.toDigits_ne_nil)).mp
    (Nat.le_refl _)

/-- The quotient is at least the power of ten that is said to be the highest below it. -/
theorem ten_zpow_floorLog10_le (hnum : 0 < num) (hden : 0 < den) :
    (10 : ℚ) ^ floorLog10 num den ≤ num / den := by
  have hnum' : (0 : ℚ) < num := Nat.cast_pos.mpr hnum
  have hden' : (0 : ℚ) < den := Nat.cast_pos.mpr hden
  rw [floorLog10]
  split
  · next hle =>
      have hpos : 0 < num / den := Nat.div_pos hle hden
      have hlength : 0 < (digitsOf (num / den)).length := List.length_pos_iff.mpr Nat.toDigits_ne_nil
      have hexponent : ((digitsOf (num / den)).length : Int) - 1 =
          ((digitsOf (num / den)).length - 1 : Nat) := by omega
      rw [hexponent, zpow_natCast]
      calc (10 : ℚ) ^ ((digitsOf (num / den)).length - 1)
        _ ≤ (num / den : Nat) := by exact_mod_cast ten_pow_le_of_length_digitsOf hpos
        _ ≤ num / den := Nat.cast_div_le
  · have hlog := lt_ten_pow_length_digitsOf (den / num)
    have hlength : 0 < (digitsOf (den / num)).length := List.length_pos_iff.mpr Nat.toDigits_ne_nil
    dsimp only
    generalize (digitsOf (den / num)).length = d at hlog hlength ⊢
    have hpos (j : Int) : (0 : ℚ) < 10 ^ j := zpow_pos (by norm_num) j
    split
    · next heq =>
        have heq : (num : ℚ) * 10 ^ ((d : Int) - 1) = den := by
          rw [← cast_powerOfTen (by omega), ← Nat.cast_mul, heq]
        rw [zpow_neg, ← heq, div_mul_cancel_left₀ hnum'.ne']
    · have hlt : (den : ℚ) < 10 ^ (d : Int) * num := by
        rw [Nat.div_lt_iff_lt_mul hnum] at hlog
        exact_mod_cast hlog
      rw [zpow_neg, inv_le_iff_one_le_mul₀ (hpos d), div_mul_eq_mul_div, one_le_div₀ hden', mul_comm]
      exact hlt.le

theorem value_div_den (m : Nat) (e : Int) :
    ((Interval.of m e).value : ℚ) / (Interval.of m e).den = m * 2 ^ e := by
  rw [interval_of_eq]
  dsimp only
  rw [mul_quarter_div, quarters_mul, Nat.cast_mul, Nat.cast_ofNat, mul_div_cancel_left₀ _ four_ne_zero]

theorem den_pos (m : Nat) (e : Int) : 0 < (Interval.of m e).den := by
  rw [interval_of_eq]
  exact quarter_snd_pos e

theorem value_pos (hm : 0 < m) (e : Int) : 0 < (Interval.of m e).value := by
  have hquarter : 0 < (quarter e).1 := by
    rw [quarter]
    split
    · exact powerOfTwo_pos _
    · exact Nat.one_pos
  rw [interval_of_eq]
  exact Nat.mul_pos (by omega) hquarter

/-- The power of ten of the first digit. -/
def topPower (m : Nat) (e : Int) : Int :=
  floorLog10 (Interval.of m e).value (Interval.of m e).den

theorem ten_zpow_topPower_le (hm : 0 < m) (e : Int) : (10 : ℚ) ^ topPower m e ≤ m * 2 ^ e := by
  rw [← value_div_den]
  exact ten_zpow_floorLog10_le (value_pos hm e) (den_pos m e)

/-- A number over a power of ten, as a numerator and a denominator. -/
def overPower (num den : Nat) (k : Int) : Nat × Nat :=
  if 0 ≤ k then (num, den * powerOfTen k) else (num * powerOfTen (-k), den)

theorem overPower_snd_pos (hden : 0 < den) : 0 < (overPower num den k).2 := by
  rw [overPower]
  split
  · exact Nat.mul_pos hden (powerOfTen_pos k)
  · exact hden

theorem overPower_div (num den : Nat) (k : Int) :
    ((overPower num den k).1 : ℚ) / (overPower num den k).2 = num / den / 10 ^ k := by
  rw [overPower]
  split
  · next hk => rw [Nat.cast_mul, cast_powerOfTen hk, div_div]
  · next hk =>
      rw [Nat.cast_mul, cast_powerOfTen (by omega), zpow_neg, div_div, mul_comm (den : ℚ), ← div_div,
        div_eq_mul_inv (num : ℚ) (10 ^ k)]

/-- The neighbours of a quotient, the nearer one first. -/
def neighbours (num den : Nat) : Nat × Nat :=
  if decide (2 * (num % den) > den) || (2 * (num % den) == den && num / den % 2 == 1) then
    (num / den + 1, num / den)
  else (num / den, num / den + 1)

theorem neighbours_fst (num den : Nat) : (neighbours num den).1 = roundHalfEven num den := by
  rw [neighbours, roundHalfEven, apply_ite Prod.fst]
  exact if_congr (by simp) rfl rfl

theorem nearest?_eq (i : Interval) (k : Int) : i.nearest? k =
    let tried := neighbours (overPower i.value i.den k).1 (overPower i.value i.den k).2
    if i.contains tried.1 k then some tried.1
    else if i.contains tried.2 k then some tried.2
    else none :=
  rfl

theorem contains_of_nearest? {i : Interval} (h : i.nearest? k = some n) : i.contains n k = true := by
  rw [nearest?_eq] at h
  dsimp only at h
  split at h
  · next hfirst => exact Option.some.inj h ▸ hfirst
  · split at h
    · next hsecond => exact Option.some.inj h ▸ hsecond
    · cases h

/-- Half a unit of the seventeenth digit is too little to reach the lower bound. -/
theorem lowQuarters_lt (hn : IsNormalForm m e) (hm : 0 < m) :
    (lowQuarters m e : ℚ) / 4 < m - m / (2 * 10 ^ 16) := by
  have hlarge : (m : ℚ) + 1 ≤ 2 ^ 53 := by exact_mod_cast hn.lt
  rw [lowQuarters]
  split
  · next h =>
      rw [h.1]
      norm_num
  · rw [Nat.cast_sub (by omega)]
    push_cast
    norm_num at hlarge ⊢
    linarith

/-- A decimal that is at most half a unit of the seventeenth digit away is rounded to the number. -/
theorem roundsTo_of_abs_sub_le (hn : IsNormalForm m e) (hm : 0 < m)
    (hk : (10 : ℚ) ^ (k + 16) ≤ m * 2 ^ e) (hclose : |(n : ℚ) - m * 2 ^ e / 10 ^ k| ≤ 1 / 2) :
    RoundsTo m e (n * 10 ^ k) := by
  have htwo : (0 : ℚ) < 2 ^ e := zpow_pos two_pos e
  have hten : (0 : ℚ) < 10 ^ k := zpow_pos (by norm_num) k
  have hlarge : (m : ℚ) + 1 ≤ 2 ^ 53 := by exact_mod_cast hn.lt
  have hunit : (10 : ℚ) ^ k / 2 ≤ m / (2 * 10 ^ 16) * 2 ^ e := by
    rw [zpow_add₀ (by norm_num)] at hk
    norm_num at hk ⊢
    linarith
  obtain ⟨hbelow, habove⟩ := abs_le.mp hclose
  have hbelow : m * 2 ^ e - 10 ^ k / 2 ≤ (n : ℚ) * 10 ^ k := by
    have hmul := mul_le_mul_of_nonneg_right (show m * 2 ^ e / 10 ^ k - 1 / 2 ≤ (n : ℚ) by linarith)
      hten.le
    rw [sub_mul, div_mul_cancel₀ _ hten.ne'] at hmul
    linarith
  have habove : (n : ℚ) * 10 ^ k ≤ m * 2 ^ e + 10 ^ k / 2 := by
    have hmul := mul_le_mul_of_nonneg_right (show (n : ℚ) ≤ m * 2 ^ e / 10 ^ k + 1 / 2 by linarith)
      hten.le
    rw [add_mul, div_mul_cancel₀ _ hten.ne'] at hmul
    linarith
  have hlow : (lowQuarters m e : ℚ) * 2 ^ (e - 2) < n * 10 ^ k := by
    have hmul := mul_lt_mul_of_pos_right (lowQuarters_lt hn hm) htwo
    rw [quarters_mul]
    rw [sub_mul] at hmul
    linarith
  have hhigh : (n : ℚ) * 10 ^ k < (4 * m + 2 : Nat) * 2 ^ (e - 2) := by
    have hmul := mul_lt_mul_of_pos_right
      (show (m : ℚ) / (2 * 10 ^ 16) < 1 / 2 by norm_num at hlarge ⊢; linarith) htwo
    rw [quarters_mul]
    push_cast
    linarith
  exact ⟨hlow.le, hhigh.le, fun _ => ⟨hlow, hhigh⟩⟩

/-- Seventeen digits suffice. -/
theorem exists_nearest? (hn : IsNormalForm m e) (hm : 0 < m) :
    ∃ n, (Interval.of m e).nearest? (topPower m e - 16) = some n := by
  have hten : (10 : ℚ) ^ (topPower m e - 16 + 16) ≤ m * 2 ^ e := by
    rw [sub_add_cancel]
    exact ten_zpow_topPower_le hm e
  generalize topPower m e - 16 = k at hten ⊢
  have hden : 0 < (overPower (Interval.of m e).value (Interval.of m e).den k).2 :=
    overPower_snd_pos (den_pos m e)
  have hclose := abs_roundHalfEven_sub_le
    (n := (overPower (Interval.of m e).value (Interval.of m e).den k).1) hden
  rw [overPower_div, value_div_den, ← neighbours_fst] at hclose
  have hcontains := contains_iff.mpr (roundsTo_of_abs_sub_le hn hm hten hclose)
  exact ⟨_, (nearest?_eq _ k).trans (if_pos hcontains)⟩

/-- The candidate with the fewest digits. -/
def candidate? (m : Nat) (e : Int) : Option (Nat × Int) :=
  (List.range 17).findSome? fun (place : Nat) =>
    ((Interval.of m e).nearest? (topPower m e - place)).map fun n => (n, topPower m e - place)

/-- Digits without the zeros at their end, and the power of ten of the last one left. -/
def trimmed (digits : List Char) (k : Int) : List Char × Int :=
  ((digits.reverse.drop (digits.reverse.takeWhile (· == '0')).length).reverse,
    k + (digits.reverse.takeWhile (· == '0')).length)

theorem decimal_eq (h : candidate? m e = some (n, k)) : decimal m e = trimmed (digitsOf n) k := by
  rw [candidate?, topPower] at h
  simp only [decimal, h, Option.getD_some, trimmed]

/-- The digits of a number are those of a decimal that is rounded to it. -/
theorem exists_decimal_eq (hn : IsNormalForm m e) (hm : 0 < m) :
    ∃ n k, decimal m e = trimmed (digitsOf n) k ∧ RoundsTo m e (n * 10 ^ k) := by
  obtain ⟨⟨n, k⟩, hcandidate⟩ : ∃ found, candidate? m e = some found := by
    rw [← Option.isSome_iff_exists, candidate?, List.findSome?_isSome_iff]
    obtain ⟨n, hnearest⟩ := exists_nearest? hn hm
    exact ⟨16, by decide, by simp [hnearest]⟩
  obtain ⟨place, -, hplace⟩ := List.exists_of_findSome?_eq_some hcandidate
  obtain ⟨digits, hdigits, heq⟩ := Option.map_eq_some_iff.mp hplace
  cases heq
  exact ⟨n, _, decimal_eq hcandidate, contains_iff.mp (contains_of_nearest? hdigits)⟩

end Existence

section Trimming

variable {m n : Nat} {e : Int}

/-- The first digit of a positive number is not zero. -/
theorem head?_digitsOf_ne (hn : 0 < n) : (digitsOf n).head? ≠ some '0' := by
  have hchars : ∀ n < 10, 0 < n → Nat.digitChar n ≠ '0' := by decide
  induction n using Nat.strongRecOn with
  | ind n ih =>
      rw [digitsOf, Nat.toDigits_eq_if (by decide)]
      split
      · next hlt => exact fun h => hchars n hlt hn (Option.some.inj h)
      · next hge =>
          rw [List.head?_append_of_ne_nil _ Nat.toDigits_ne_nil]
          exact ih (n / 10) (Nat.div_lt_self hn (by decide)) (Nat.div_pos (by omega) (by decide))

/-- Only zeros at the end are trimmed. -/
theorem exists_trimmed_eq (digits : List Char) (k : Int) : ∃ kept count,
    digits = kept ++ List.replicate count '0' ∧ trimmed digits k = (kept, k + count) := by
  have hzeros : digits.rtakeWhile (· == '0') =
      List.replicate (digits.rtakeWhile (· == '0')).length '0' := by
    refine List.eq_replicate_iff.mpr ⟨rfl, fun c hc => ?_⟩
    have hzero := List.mem_rtakeWhile_imp hc
    exact beq_iff_eq.mp hzero
  have hdrop (l : List Char) : l.drop (l.takeWhile (· == '0')).length = l.dropWhile (· == '0') := by
    calc l.drop (l.takeWhile (· == '0')).length
      _ = (l.takeWhile (· == '0') ++ l.dropWhile (· == '0')).drop (l.takeWhile (· == '0')).length := by
        rw [List.takeWhile_append_dropWhile]
      _ = l.dropWhile (· == '0') := List.drop_left
  refine ⟨digits.rdropWhile (· == '0'), (digits.rtakeWhile (· == '0')).length, ?_, ?_⟩
  · rw [← hzeros, List.rdropWhile_append_rtakeWhile]
  · rw [trimmed, hdrop, List.rdropWhile, List.rtakeWhile, List.length_reverse]

/-- Digits that begin with no zero. -/
structure IsLeading (ds : List Char) : Prop where
  digits : ∀ c ∈ ds, Text.isAsciiDigit c = true
  head : ∃ d rest, ds = d :: rest ∧ d ≠ '0'

theorem IsLeading.take {ds : List Char} (h : IsLeading ds) {n : Nat} (hn : 0 < n) :
    IsLeading (ds.take n) where
  digits := fun c hc => h.digits c (List.mem_of_mem_take hc)
  head := by
    obtain ⟨d, rest, rfl, hd⟩ := h.head
    obtain ⟨n, rfl⟩ := Nat.exists_eq_succ_of_ne_zero hn.ne'
    exact ⟨d, rest.take n, rfl, hd⟩

theorem IsLeading.append {ds others : List Char} (h : IsLeading ds)
    (hothers : ∀ c ∈ others, Text.isAsciiDigit c = true) : IsLeading (ds ++ others) where
  digits := List.forall_mem_append.mpr ⟨h.digits, hothers⟩
  head := by
    obtain ⟨d, rest, rfl, hd⟩ := h.head
    exact ⟨d, rest ++ others, rfl, hd⟩

/-- The digits of a number, which begin with no zero, are read back as that number. -/
theorem exists_decimal (hn : IsNormalForm m e) (hm : 0 < m) : ∃ digits k,
    decimal m e = (digits, k) ∧ IsLeading digits ∧
      RoundsTo m e (Digits.number 10 digits * 10 ^ k) := by
  obtain ⟨n, k, hdecimal, hrounds⟩ := exists_decimal_eq hn hm
  obtain ⟨kept, count, hdigits, htrimmed⟩ := exists_trimmed_eq (digitsOf n) k
  have hpos : 0 < n := by
    rw [Nat.pos_iff_ne_zero]
    rintro rfl
    have hlow := hrounds.bound_le hn hm
    rw [Nat.cast_zero, zero_mul] at hlow
    exact absurd hlow (zpow_pos two_pos _).not_ge
  have hnumber : Digits.number 10 kept * 10 ^ count = n := by
    have happend := Digits.number_append 10 kept (List.replicate count '0')
    rw [← hdigits, Digits.number_replicate_zero, List.length_replicate, digitsOf,
      Digits.number_toDigits, Nat.add_zero] at happend
    exact happend.symm
  refine ⟨kept, k + count, hdecimal.trans htrimmed, ⟨?_, ?_⟩, ?_⟩
  · intro c hc
    exact Decimal.isAsciiDigit_of_mem_toDigits (hdigits ▸ List.mem_append_left _ hc)
  · have hhead := head?_digitsOf_ne hpos
    rw [hdigits] at hhead
    cases kept with
    | nil =>
        have hne : digitsOf n ≠ [] := Nat.toDigits_ne_nil
        cases count with
        | zero => exact absurd hdigits hne
        | succ count => exact absurd rfl hhead
    | cons d rest => exact ⟨d, rest, rfl, fun hd => hhead (congrArg some hd)⟩
  · rw [← hnumber, Nat.cast_mul, Nat.cast_pow, Nat.cast_ofNat, mul_assoc] at hrounds
    rwa [add_comm k, zpow_add₀ (by norm_num), zpow_natCast]

end Trimming

end Shortest

end MarkerLint
