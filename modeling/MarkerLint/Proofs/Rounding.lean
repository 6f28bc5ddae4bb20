import Mathlib.Algebra.Order.Field.Power
import Mathlib.Algebra.Order.Field.Rat
import MarkerLint.Number.Binary64

/-!
# Rounding to the format

A quotient is counted in units of a power of two that leaves the count 53 bits, and the count is
rounded. A quotient of at least the smallest number of the format is not rounded to zero, so its sign
is kept. An integer is rounded beyond the format from the middle between its largest number and the
next power of two on.
-/

namespace MarkerLint.Binary64

section RoundedQuotient

variable {n d k : Nat}

/-- The rounded quotient is above a natural number if the quotient is above the middle between it and
the next one, or is the middle and the next one is even. -/
theorem lt_roundHalfEven_iff (hd : 0 < d) : k < roundHalfEven n d ↔
    (2 * k + 1) * d < 2 * n ∨ ((2 * k + 1) * d = 2 * n ∧ k % 2 = 1) := by
  have hdiv : d * (n / d) + n % d = n := Nat.div_add_mod n d
  have hmod : n % d < d := Nat.mod_lt n hd
  rw [roundHalfEven]
  generalize n / d = q at hdiv
  generalize n % d = r at hdiv hmod
  subst hdiv
  rcases Nat.lt_trichotomy k q with hlt | rfl | hgt
  · obtain ⟨t, rfl⟩ := Nat.exists_eq_add_of_lt hlt
    have hmiddle : (2 * k + 1) * d < 2 * (d * (k + t + 1) + r) := by
      calc (2 * k + 1) * d < (2 * (k + t + 1)) * d := Nat.mul_lt_mul_of_pos_right (by omega) hd
        _ = 2 * (d * (k + t + 1)) := by rw [Nat.mul_assoc, Nat.mul_comm _ d]
        _ ≤ 2 * (d * (k + t + 1) + r) := by omega
    refine iff_of_true ?_ (.inl hmiddle)
    split <;> omega
  · have hmiddle : (2 * k + 1) * d = 2 * (d * k) + d := by
      rw [Nat.add_mul, Nat.one_mul, Nat.mul_assoc, Nat.mul_comm k d]
    rw [hmiddle]
    split <;> omega
  · have hmiddle : 2 * (d * q + r) < (2 * k + 1) * d := by
      calc 2 * (d * q + r) < 2 * (d * q) + 3 * d := by omega
        _ = (2 * q + 3) * d := by rw [Nat.mul_comm d q, ← Nat.mul_assoc, ← Nat.add_mul]
        _ ≤ (2 * k + 1) * d := Nat.mul_le_mul_right d (by omega)
    refine iff_of_false ?_ (by omega)
    split <;> omega

theorem roundHalfEven_le (hd : 0 < d) (h : n ≤ k * d) : roundHalfEven n d ≤ k := by
  rw [← Nat.not_lt, lt_roundHalfEven_iff hd, Nat.add_mul, Nat.mul_assoc]
  omega

theorem roundHalfEven_pos (hd : 0 < d) (h : d ≤ n) : 0 < roundHalfEven n d := by
  rw [lt_roundHalfEven_iff hd]
  omega

end RoundedQuotient

section Units

variable {num den : Nat} {k : Int}

/-- The quotient in units of a power of two, as a numerator and a denominator. -/
def inUnits (num den : Nat) (k : Int) : Nat × Nat :=
  if 0 ≤ k then (num, den * powerOfTwo k) else (num * powerOfTwo (-k), den)

theorem cast_powerOfTwo (hk : 0 ≤ k) : (powerOfTwo k : ℚ) = 2 ^ k := by
  obtain ⟨n, rfl⟩ := Int.eq_ofNat_of_zero_le hk
  exact (Nat.cast_pow 2 n).trans (zpow_natCast 2 n).symm

theorem inUnits_snd_pos (hden : 0 < den) : 0 < (inUnits num den k).2 := by
  rw [inUnits]
  split
  · exact Nat.mul_pos hden (powerOfTwo_pos k)
  · exact hden

/-- The quotient is at least one unit if it is at least that power of two. -/
theorem inUnits_le_iff (hden : 0 < den) :
    (inUnits num den k).2 ≤ (inUnits num den k).1 ↔ (2 : ℚ) ^ k ≤ num / den := by
  have hden' : (0 : ℚ) < den := Nat.cast_pos.mpr hden
  rw [le_div_iff₀ hden', inUnits]
  split
  · next hk => rw [← cast_powerOfTwo hk, ← Nat.cast_mul, Nat.cast_le, Nat.mul_comm]
  · next hk =>
      have hneg : 0 ≤ -k := by omega
      have hpos : (0 : ℚ) < 2 ^ k := zpow_pos two_pos k
      rw [← le_div_iff₀' hpos, div_eq_mul_inv, ← zpow_neg, ← cast_powerOfTwo hneg, ← Nat.cast_mul,
        Nat.cast_le]

theorem floorLog2_eq (num den : Nat) : floorLog2 num den =
    if (inUnits num den ((Nat.log2 num : Int) - Nat.log2 den)).1 <
        (inUnits num den ((Nat.log2 num : Int) - Nat.log2 den)).2
    then (Nat.log2 num : Int) - Nat.log2 den - 1 else (Nat.log2 num : Int) - Nat.log2 den :=
  rfl

/-- The quotient is at least the power of two that is said to be the highest below it. -/
theorem two_zpow_floorLog2_le (hnum : num ≠ 0) (hden : 0 < den) :
    (2 : ℚ) ^ floorLog2 num den ≤ num / den := by
  have hden' : (0 : ℚ) < den := Nat.cast_pos.mpr hden
  rw [floorLog2_eq]
  split
  · have hlow : (2 : ℚ) ^ (Nat.log2 num : Int) ≤ num := by
      rw [zpow_natCast]
      exact_mod_cast Nat.log2_self_le hnum
    have hhigh : (den : ℚ) ≤ 2 ^ ((Nat.log2 den : Int) + 1) := by
      exact_mod_cast Nat.lt_log2_self.le
    rw [sub_sub, zpow_sub₀ two_ne_zero]
    exact div_le_div₀ (Nat.cast_nonneg num) hlow hden' hhigh
  · next h => exact (inUnits_le_iff hden).mp (Nat.not_lt.mp h)

theorem floorLog2_one (hnum : num ≠ 0) : floorLog2 num 1 = Nat.log2 num := by
  have hlow : powerOfTwo (Nat.log2 num) ≤ num := Nat.log2_self_le hnum
  have hone : Nat.log2 1 = 0 := rfl
  rw [floorLog2_eq, hone, Int.natCast_zero, sub_zero, inUnits, if_pos (Int.natCast_nonneg _),
    Nat.one_mul, if_neg (Nat.not_lt.mpr hlow)]

end Units

section Results

variable {negative : Bool} {num den m : Nat} {e : Int}

/-- The exponent of the unit that a quotient is counted in. -/
def unitOf (num den : Nat) : Int :=
  max (floorLog2 num den - 52) (-1074)

/-- The quotient in its units, rounded. -/
def countOf (num den : Nat) : Nat :=
  roundHalfEven (inUnits num den (unitOf num den)).1 (inUnits num den (unitOf num den)).2

/-- A number of the format, or the infinite one if the exponent lies beyond it. -/
def ofParts (negative : Bool) (m : Nat) (e : Int) : Binary64 :=
  if e > 971 then .infinite negative else .finite negative m e

/-- The number with a count of units, where a count of 54 bits carries to the next unit. -/
def ofCount (negative : Bool) (m : Nat) (e : Int) : Binary64 :=
  if m = 2 ^ 53 then ofParts negative (2 ^ 52) (e + 1) else ofParts negative m e

theorem ofRatio_eq (negative : Bool) (hnum : num ≠ 0) (den : Nat) :
    ofRatio negative num den = ofCount negative (countOf num den) (unitOf num den) := by
  rw [ofRatio, if_neg hnum]
  exact apply_ite (fun parts : Nat × Int => ofParts negative parts.1 parts.2)
    (countOf num den = 2 ^ 53) (2 ^ 52, unitOf num den + 1) (countOf num den, unitOf num den)

/-- A quotient of at least the smallest number of the format counts one unit or more. -/
theorem countOf_pos (hnum : num ≠ 0) (hden : 0 < den)
    (h : (2 : ℚ) ^ (-1074 : Int) ≤ num / den) : 0 < countOf num den := by
  apply roundHalfEven_pos (inUnits_snd_pos hden)
  rw [inUnits_le_iff hden]
  rcases max_choice (floorLog2 num den - 52) (-1074) with hunit | hunit
  · calc (2 : ℚ) ^ unitOf num den = 2 ^ (floorLog2 num den - 52) := by rw [unitOf, hunit]
      _ ≤ 2 ^ floorLog2 num den := zpow_le_zpow_right₀ one_le_two (by omega)
      _ ≤ num / den := two_zpow_floorLog2_le hnum hden
  · rwa [unitOf, hunit]

theorem ofParts_cases (negative : Bool) (m : Nat) (e : Int) :
    ofParts negative m e = .infinite negative ∨ ofParts negative m e = .finite negative m e := by
  rw [ofParts]
  split
  · exact .inl rfl
  · exact .inr rfl

/-- A count of one unit or more is not lost: the number is infinite, or it has a significand. -/
theorem ofCount_cases (negative : Bool) (hm : 0 < m) (e : Int) :
    ofCount negative m e = .infinite negative ∨
      ∃ n f, ofCount negative m e = .finite negative n f ∧ 0 < n ∧ e ≤ f := by
  rw [ofCount]
  split
  · refine (ofParts_cases negative (2 ^ 52) (e + 1)).imp_right fun h => ?_
    exact ⟨_, _, h, Nat.two_pow_pos 52, by omega⟩
  · refine (ofParts_cases negative m e).imp_right fun h => ?_
    exact ⟨_, _, h, hm, Int.le_refl e⟩

theorem isFinite_ofCount_iff : (ofCount negative m e).isFinite = true ↔
    e ≤ 970 ∨ (e = 971 ∧ m ≠ 2 ^ 53) := by
  have hparts (n : Nat) (f : Int) : (ofParts negative n f).isFinite = true ↔ f ≤ 971 := by
    rw [ofParts]
    split
    · exact iff_of_false Bool.false_ne_true (by omega)
    · exact iff_of_true rfl (by omega)
  rw [ofCount]
  split
  · rw [hparts]
    omega
  · rw [hparts]
    omega

/-- A finite number is below zero if its sign says so and it is not zero. -/
theorem ltInt_zero_finite (negative : Bool) (m : Nat) (e : Int) :
    (finite negative m e).ltInt 0 = (negative && m != 0) := by
  have hpos : (0 : Int) < powerOfTwo (e - min e 0) := Int.natCast_pos.mpr (powerOfTwo_pos _)
  rw [ltInt, scaledLt, Int.zero_mul, Bool.eq_iff_iff, decide_eq_true_iff, mul_neg_iff,
    and_iff_left hpos, or_iff_right fun h => Int.lt_asymm hpos h.2]
  cases negative with
  | false => simp [signed]
  | true => simp [signed, Nat.pos_iff_ne_zero]

/-- The sign of a result that is not rounded to zero is that of the quotient. -/
theorem ltInt_zero_ofRatio (negative : Bool) (hnum : num ≠ 0) (hden : 0 < den)
    (h : (2 : ℚ) ^ (-1074 : Int) ≤ num / den) : (ofRatio negative num den).ltInt 0 = negative := by
  rw [ofRatio_eq negative hnum]
  rcases ofCount_cases negative (countOf_pos hnum hden h) (unitOf num den) with
    hinfinite | ⟨m, e, hfinite, hm, -⟩
  · rw [hinfinite, ltInt]
  · rw [hfinite, ltInt_zero_finite, bne_iff_ne.mpr hm.ne', Bool.and_true]

theorem scaled_snd_pos (n : Nat) (k : Int) : 0 < (scaled n k).2 := by
  rw [scaled]
  split
  · exact Nat.one_pos
  · exact powerOfTwo_pos (-k)

theorem scaled_fst_eq_zero_iff (n : Nat) (k : Int) : (scaled n k).1 = 0 ↔ n = 0 := by
  rw [scaled]
  split
  · rw [Nat.mul_eq_zero, or_iff_left (powerOfTwo_pos k).ne']
  · exact Iff.rfl

theorem scaled_eq (n : Nat) (k : Int) : ((scaled n k).1 : ℚ) / (scaled n k).2 = n * 2 ^ k := by
  rw [scaled]
  split
  · next hk => rw [Nat.cast_mul, cast_powerOfTwo hk, Nat.cast_one, div_one]
  · next hk => rw [cast_powerOfTwo (by omega), zpow_neg, div_inv_eq_mul]

/-- The sign of a product that is not rounded to zero is that of the exact one. -/
theorem ltInt_zero_mul {s t : Bool} {m n : Nat} {e f : Int} (hm : 0 < m) (hn : 0 < n)
    (h : -1074 ≤ e + f) : ((finite s m e).mul (finite t n f)).ltInt 0 = (s != t) := by
  have hmn : 0 < m * n := Nat.mul_pos hm hn
  apply ltInt_zero_ofRatio _ ((scaled_fst_eq_zero_iff _ _).not.mpr hmn.ne') (scaled_snd_pos _ _)
  rw [scaled_eq]
  calc (2 : ℚ) ^ (-1074 : Int) ≤ 2 ^ (e + f) := zpow_le_zpow_right₀ one_le_two h
    _ ≤ (m * n : Nat) * 2 ^ (e + f) :=
      le_mul_of_one_le_left (zpow_pos two_pos _).le (by exact_mod_cast hmn)

theorem ltInt_zero_zero_mul (s t : Bool) (n : Nat) (e f : Int) :
    ((finite s 0 e).mul (finite t n f)).ltInt 0 = false := by
  have hnum : (scaled (0 * n) (e + f)).1 = 0 := (scaled_fst_eq_zero_iff _ _).mpr (Nat.zero_mul n)
  rw [mul]
  dsimp only
  rw [hnum, ofRatio, if_pos rfl, zero, ltInt_zero_finite, bne_self_eq_false, Bool.and_false]

end Results

section Integers

variable {n k : Nat} {i : Int}

theorem unitOf_one (hn : n ≠ 0) : unitOf n 1 = Nat.log2 n - 52 := by
  rw [unitOf, floorLog2_one hn]
  omega

/-- The middle between the largest number of the unit `2 ^ (k + 1)`, which has 53 bits all set, and the
next power of two. -/
def carryBound (k : Nat) : Nat :=
  (2 ^ 54 - 1) * 2 ^ k

/-- The least magnitude that is rounded beyond the format. -/
def overflowBound : Nat :=
  carryBound 970

theorem carryBound_pos (k : Nat) : 0 < carryBound k :=
  Nat.mul_pos (by decide) (Nat.two_pow_pos k)

theorem carryBound_lt (k : Nat) : carryBound k < 2 ^ (54 + k) := by
  rw [carryBound, Nat.pow_add]
  exact Nat.mul_lt_mul_of_pos_right (by decide) (Nat.two_pow_pos k)

/-- The count of an integer carries to the next unit from the middle on. -/
theorem countOf_one_eq_iff (hn : n ≠ 0) (hbits : Nat.log2 n = k + 53) :
    countOf n 1 = 2 ^ 53 ↔ carryBound k ≤ n := by
  have hhigh : n < 2 ^ (54 + k) := (Nat.log2_lt hn).mp (by omega)
  have hunit : unitOf n 1 = (k + 1 : Nat) := by
    rw [unitOf_one hn]
    omega
  have hpower : 1 * powerOfTwo (k + 1 : Nat) = 2 * 2 ^ k := (Nat.one_mul _).trans Nat.pow_succ'
  rw [Nat.pow_add] at hhigh
  rw [countOf, hunit, inUnits, if_pos (Int.natCast_nonneg _), hpower, carryBound]
  have hhalf : 0 < 2 ^ k := Nat.two_pow_pos k
  generalize 2 ^ k = half at hhigh hhalf ⊢
  have hle : roundHalfEven n (2 * half) ≤ 2 ^ 53 := roundHalfEven_le (by omega) (by omega)
  have hlt := lt_roundHalfEven_iff (n := n) (k := 2 ^ 53 - 1) (show 0 < 2 * half by omega)
  change roundHalfEven n (2 * half) = 2 ^ 53 ↔ _
  omega

theorem lt_carryBound_iff (hn : n ≠ 0) : n < carryBound k ↔
    Nat.log2 n < k + 53 ∨ (Nat.log2 n = k + 53 ∧ countOf n 1 ≠ 2 ^ 53) := by
  have hhalf : 0 < 2 ^ k := Nat.two_pow_pos k
  rcases Nat.lt_trichotomy (Nat.log2 n) (k + 53) with hlow | hbits | hhigh
  · refine iff_of_true ?_ (.inl hlow)
    have hlt := (Nat.log2_lt hn).mp hlow
    rw [Nat.pow_add] at hlt
    rw [carryBound]
    omega
  · rw [Ne, countOf_one_eq_iff hn hbits]
    omega
  · refine iff_of_false ?_ (by omega)
    have hle := (Nat.le_log2 hn).mp (show 54 + k ≤ Nat.log2 n by omega)
    have hbound := carryBound_lt k
    omega

/-- An integer is rounded to a finite number exactly if its magnitude is below the bound. -/
theorem isFinite_ofInt_iff : (ofInt i).isFinite = true ↔ i.natAbs < overflowBound := by
  rw [ofInt, overflowBound]
  by_cases hn : i.natAbs = 0
  · rw [hn]
    exact iff_of_true rfl (carryBound_pos 970)
  · rw [ofRatio_eq _ hn, isFinite_ofCount_iff, unitOf_one hn, lt_carryBound_iff hn]
    omega

/-- A finite number nearest to an integer other than zero has its sign and is no fraction of one unit
in the last place of one. -/
theorem exists_ofInt_eq (hi : i ≠ 0) (h : (ofInt i).isFinite = true) :
    ∃ m e, ofInt i = .finite (decide (i < 0)) m e ∧ 0 < m ∧ -52 ≤ e := by
  have hn : i.natAbs ≠ 0 := Int.natAbs_ne_zero.mpr hi
  have hone : (2 : ℚ) ^ (-1074 : Int) ≤ i.natAbs / (1 : Nat) := by
    have hle : (1 : ℚ) ≤ i.natAbs := by exact_mod_cast Nat.pos_of_ne_zero hn
    rw [Nat.cast_one, div_one]
    exact (zpow_le_one_of_nonpos₀ one_le_two (by decide)).trans hle
  rw [ofInt, ofRatio_eq _ hn] at h ⊢
  rcases ofCount_cases (decide (i < 0)) (countOf_pos hn Nat.one_pos hone) (unitOf i.natAbs 1) with
    hinfinite | ⟨m, e, hfinite, hm, he⟩
  · rw [hinfinite] at h
    cases h
  · rw [unitOf_one hn] at he
    exact ⟨m, e, hfinite, hm, by omega⟩

end Integers

end MarkerLint.Binary64
