import Mathlib.Tactic.FieldSimp
import Mathlib.Tactic.Linarith
import Mathlib.Tactic.NormNum
import MarkerLint.Proofs.Rounding

/-!
# Normal forms

Every result of rounding is in normal form. A number in normal form is the result for the quotients
around it: up to half a unit away, or a quarter of one below a power of two, where the units of the
smaller numbers are half as large. What a quotient is rounded to depends on its value alone.
-/

namespace MarkerLint.Binary64

/-- The significand and exponent of a finite number in normal form. -/
structure IsNormalForm (m : Nat) (e : Int) : Prop where
  lt : m < 2 ^ 53
  least : -1074 ≤ e
  greatest : e ≤ 971
  full : 2 ^ 52 ≤ m ∨ e = -1074

/-- A number in normal form. -/
def IsNormal : Binary64 → Prop
  | .finite _ m e => IsNormalForm m e
  | .infinite _ => True
  | .nan => True

theorem IsNormal.neg {x : Binary64} (h : x.IsNormal) : x.neg.IsNormal := by
  cases x <;> exact h

section Quotients

variable {n d k m : Nat}

theorem lt_roundHalfEven_iff_add_half (hd : 0 < d) : k < roundHalfEven n d ↔
    (k : ℚ) + 1 / 2 < n / d ∨ ((k : ℚ) + 1 / 2 = n / d ∧ k % 2 = 1) := by
  have hd' : (0 : ℚ) < d := Nat.cast_pos.mpr hd
  have hmiddle : (k : ℚ) + 1 / 2 = ((2 * k + 1) * d : Nat) / (2 * d : Nat) := by
    push_cast
    field_simp
  have hquotient : (n : ℚ) / d = (2 * n : Nat) / (2 * d : Nat) := by
    push_cast
    rw [mul_div_mul_left _ _ two_ne_zero]
  have hpos : (0 : ℚ) < (2 * d : Nat) := by exact_mod_cast Nat.mul_pos two_pos hd
  rw [lt_roundHalfEven_iff hd, hmiddle, hquotient, div_lt_div_iff_of_pos_right hpos,
    div_left_inj' hpos.ne', Nat.cast_lt, Nat.cast_inj]

/-- A quotient at most half away from an even number is rounded to it, and a quotient less than half
away from any number. -/
theorem roundHalfEven_eq (hd : 0 < d) (h : |(n : ℚ) / d - m| ≤ 1 / 2)
    (hodd : m % 2 = 1 → |(n : ℚ) / d - m| < 1 / 2) : roundHalfEven n d = m := by
  apply Nat.le_antisymm
  · rw [← Nat.not_lt, lt_roundHalfEven_iff_add_half hd]
    rintro (hlt | ⟨heq, hm⟩)
    · linarith [(abs_le.mp h).2]
    · linarith [(abs_lt.mp (hodd hm)).2]
  · cases m with
    | zero => exact Nat.zero_le _
    | succ k =>
        rw [Nat.succ_le_iff, lt_roundHalfEven_iff_add_half hd]
        push_cast at h hodd
        rcases (abs_le.mp h).1.lt_or_eq with hlt | heq
        · exact .inl (by linarith)
        · refine .inr ⟨by linarith, ?_⟩
          by_contra hk
          exact (abs_lt.mp (hodd (by omega))).1.ne heq

/-- A rounded quotient is at most half away from the quotient. -/
theorem abs_roundHalfEven_sub_le (hd : 0 < d) : |(roundHalfEven n d : ℚ) - n / d| ≤ 1 / 2 := by
  have hlow := lt_roundHalfEven_iff_add_half (n := n) (k := roundHalfEven n d) hd
  have hnonneg : (0 : ℚ) ≤ (n : ℚ) / d := div_nonneg (Nat.cast_nonneg n) (Nat.cast_nonneg d)
  rw [iff_false_left (Nat.lt_irrefl _), not_or, not_lt] at hlow
  rw [abs_sub_le_iff]
  refine ⟨?_, by linarith [hlow.1]⟩
  cases hm : roundHalfEven n d with
  | zero =>
      push_cast
      linarith
  | succ k =>
      have hhigh := (lt_roundHalfEven_iff_add_half hd).mp (Nat.lt_of_succ_le hm.ge)
      push_cast
      rcases hhigh with h | ⟨h, -⟩ <;> linarith

end Quotients

section Magnitude

variable {num den : Nat} {k : Int}

theorem inUnits_div (num den : Nat) (k : Int) :
    ((inUnits num den k).1 : ℚ) / (inUnits num den k).2 = num / den / 2 ^ k := by
  rw [inUnits]
  split
  · next hk => rw [Nat.cast_mul, cast_powerOfTwo hk, div_div]
  · next hk =>
      rw [Nat.cast_mul, cast_powerOfTwo (by omega), zpow_neg, div_div, mul_comm (den : ℚ), ← div_div,
        div_eq_mul_inv (num : ℚ) (2 ^ k)]

/-- The quotient is below the next power of two after the one that is said to be at most it. -/
theorem lt_two_zpow_floorLog2 (hden : 0 < den) :
    (num : ℚ) / den < 2 ^ (floorLog2 num den + 1) := by
  rw [floorLog2_eq]
  split
  · next h =>
      rw [sub_add_cancel, ← not_le, ← inUnits_le_iff hden]
      exact Nat.not_le.mpr h
  · have hlow : (2 : ℚ) ^ (Nat.log2 den : Int) ≤ den := by
      rw [zpow_natCast]
      exact_mod_cast Nat.log2_self_le hden.ne'
    have hhigh : (num : ℚ) < 2 ^ ((Nat.log2 num : Int) + 1) := by
      exact_mod_cast Nat.lt_log2_self
    have hpos : (0 : ℚ) < 2 ^ (Nat.log2 den : Int) := zpow_pos two_pos _
    rw [sub_add_eq_add_sub, zpow_sub₀ two_ne_zero]
    exact div_lt_div₀ hhigh hlow (zpow_pos two_pos _).le hpos

theorem floorLog2_eq_of_mem (hden : 0 < den) (hlow : (2 : ℚ) ^ k ≤ num / den)
    (hhigh : (num : ℚ) / den < 2 ^ (k + 1)) : floorLog2 num den = k := by
  have hnum : num ≠ 0 := by
    rintro rfl
    rw [Nat.cast_zero, zero_div] at hlow
    exact absurd hlow (zpow_pos two_pos k).not_ge
  have hle := two_zpow_floorLog2_le hnum hden
  have hlt : (num : ℚ) / den < 2 ^ (floorLog2 num den + 1) := lt_two_zpow_floorLog2 hden
  have hdown := (zpow_lt_zpow_iff_right₀ one_lt_two).mp (hle.trans_lt hhigh)
  have hup := (zpow_lt_zpow_iff_right₀ one_lt_two).mp (hlow.trans_lt hlt)
  omega

theorem floorLog2_lt_of_lt (hnum : num ≠ 0) (hden : 0 < den) (h : (num : ℚ) / den < 2 ^ k) :
    floorLog2 num den < k :=
  (zpow_lt_zpow_iff_right₀ one_lt_two).mp ((two_zpow_floorLog2_le hnum hden).trans_lt h)

end Magnitude

section Nearest

variable {m : Nat} {e : Int} {q : ℚ} {num den : Nat}

/-- The least number of quarters of the unit that is rounded to a significand. -/
def lowQuarters (m : Nat) (e : Int) : Nat :=
  if m = 2 ^ 52 ∧ -1074 < e then 4 * m - 1 else 4 * m - 2

/-- The quotient is rounded to `m * 2 ^ e`. -/
structure RoundsTo (m : Nat) (e : Int) (q : ℚ) : Prop where
  low_le : (lowQuarters m e : ℚ) * 2 ^ (e - 2) ≤ q
  le_high : q ≤ (4 * m + 2 : Nat) * 2 ^ (e - 2)
  lt_of_odd : m % 2 = 1 →
    (lowQuarters m e : ℚ) * 2 ^ (e - 2) < q ∧ q < (4 * m + 2 : Nat) * 2 ^ (e - 2)

theorem quarters_mul (n : ℚ) (e : Int) : n * 2 ^ (e - 2) = n / 4 * 2 ^ e := by
  rw [zpow_sub₀ two_ne_zero, show (2 : ℚ) ^ (2 : Int) = 4 by norm_num, ← mul_div_assoc,
    div_mul_eq_mul_div]

theorem sub_half_le_lowQuarters (hm : 0 < m) (e : Int) :
    (m : ℚ) - 1 / 2 ≤ (lowQuarters m e : ℚ) / 4 := by
  have hle : 4 * m ≤ lowQuarters m e + 2 := by
    rw [lowQuarters]
    split <;> omega
  have hle : (4 * m : ℚ) ≤ lowQuarters m e + 2 := by exact_mod_cast hle
  linarith

theorem RoundsTo.abs_sub_le (hm : 0 < m) (h : RoundsTo m e q) : |q / 2 ^ e - m| ≤ 1 / 2 := by
  have hpos : (0 : ℚ) < 2 ^ e := zpow_pos two_pos e
  have hlow := h.low_le
  have hhigh := h.le_high
  rw [quarters_mul, ← le_div_iff₀ hpos] at hlow
  rw [quarters_mul, ← div_le_iff₀ hpos] at hhigh
  push_cast at hhigh
  rw [abs_le]
  constructor <;> linarith [sub_half_le_lowQuarters hm e]

theorem RoundsTo.abs_sub_lt (hm : 0 < m) (h : RoundsTo m e q) (hodd : m % 2 = 1) :
    |q / 2 ^ e - m| < 1 / 2 := by
  have hpos : (0 : ℚ) < 2 ^ e := zpow_pos two_pos e
  obtain ⟨hlow, hhigh⟩ := h.lt_of_odd hodd
  rw [quarters_mul, ← lt_div_iff₀ hpos] at hlow
  rw [quarters_mul, ← div_lt_iff₀ hpos] at hhigh
  push_cast at hhigh
  rw [abs_lt]
  constructor <;> linarith [sub_half_le_lowQuarters hm e]

/-- Below a power of two, the quotients that are rounded up to it are at most a quarter of its unit
away. -/
theorem RoundsTo.eq_of_lt (hn : IsNormalForm m e) (h : RoundsTo m e q) (he : -1074 < e)
    (hlt : q / 2 ^ e < 2 ^ 52) : m = 2 ^ 52 ∧ (2 : ℚ) ^ 52 - 1 / 4 ≤ q / 2 ^ e := by
  have hpos : (0 : ℚ) < 2 ^ e := zpow_pos two_pos e
  have hfull : 2 ^ 52 ≤ m := hn.full.resolve_right he.ne'
  have hm : m = 2 ^ 52 := by
    by_contra hne
    have hlarge : (2 ^ 52 + 1 : ℚ) ≤ m := by exact_mod_cast (show 2 ^ 52 + 1 ≤ m by omega)
    have habs := (abs_le.mp (h.abs_sub_le (by omega))).1
    linarith
  subst hm
  have hlow := h.low_le
  rw [quarters_mul, ← le_div_iff₀ hpos, lowQuarters, if_pos ⟨rfl, he⟩] at hlow
  norm_num at hlow ⊢
  exact hlow

theorem ofParts_of_le (negative : Bool) (he : e ≤ 971) : ofParts negative m e = .finite negative m e :=
  if_neg (Int.not_lt.mpr he)

/-- Just below a power of two the quotient is counted in the smaller units, and the count carries.
-/
theorem RoundsTo.ofCount_of_lt (h : RoundsTo m e (num / den)) (hn : IsNormalForm m e)
    (hden : 0 < den) (he : -1074 < e) (hlt : (num : ℚ) / den / 2 ^ e < 2 ^ 52) (negative : Bool) :
    ofCount negative (countOf num den) (unitOf num den) = .finite negative m e := by
  have hpos : (0 : ℚ) < 2 ^ e := zpow_pos two_pos e
  obtain ⟨rfl, hclose⟩ := h.eq_of_lt hn he hlt
  have hfloor : floorLog2 num den = e + 51 := by
    apply floorLog2_eq_of_mem hden
    · rw [zpow_add₀ two_ne_zero, ← le_div_iff₀' hpos]
      exact le_trans (by norm_num) hclose
    · rw [add_assoc, zpow_add₀ two_ne_zero, ← div_lt_iff₀' hpos]
      exact hlt
  have hunit : unitOf num den = e - 1 := by
    rw [unitOf, hfloor]
    omega
  have hcount : countOf num den = 2 ^ 53 := by
    have htwice : (num : ℚ) / den / 2 ^ (e - 1) = 2 * (num / den / 2 ^ e) := by
      rw [zpow_sub₀ two_ne_zero, zpow_one, div_div_eq_mul_div, mul_comm, mul_div_assoc]
    rw [countOf, hunit]
    apply roundHalfEven_eq (inUnits_snd_pos hden)
    · rw [inUnits_div, htwice, abs_le]
      norm_num at hclose hlt ⊢
      constructor <;> linarith
    · exact fun hodd => absurd hodd (by decide)
  rw [hcount, hunit, ofCount, if_pos rfl, sub_add_cancel, ofParts_of_le negative hn.greatest]

/-- Elsewhere it is counted in the unit of the number. -/
theorem RoundsTo.unitOf_eq (h : RoundsTo m e (num / den)) (hn : IsNormalForm m e) (hm : 0 < m)
    (hnum : num ≠ 0) (hden : 0 < den) (hge : -1074 < e → (2 : ℚ) ^ 52 ≤ num / den / 2 ^ e) :
    unitOf num den = e := by
  have hpos : (0 : ℚ) < 2 ^ e := zpow_pos two_pos e
  have hlarge : (m : ℚ) + 1 ≤ 2 ^ 53 := by exact_mod_cast hn.lt
  have hhigh : (num : ℚ) / den < 2 ^ (e + 52 + 1) := by
    rw [add_assoc, zpow_add₀ two_ne_zero, ← div_lt_iff₀' hpos]
    exact lt_of_lt_of_le (by linarith [(abs_le.mp (h.abs_sub_le hm)).2]) hlarge
  rw [unitOf]
  rcases hn.least.lt_or_eq with he | rfl
  · have hlow : (2 : ℚ) ^ (e + 52) ≤ num / den := by
      rw [zpow_add₀ two_ne_zero, ← le_div_iff₀' hpos]
      exact hge he
    rw [floorLog2_eq_of_mem hden hlow hhigh]
    omega
  · have hfloor := floorLog2_lt_of_lt hnum hden hhigh
    omega

/-- A quotient that is rounded to a number in normal form gives that number. -/
theorem RoundsTo.ofRatio_eq (h : RoundsTo m e (num / den)) (hn : IsNormalForm m e) (hm : 0 < m)
    (hden : 0 < den) (negative : Bool) : ofRatio negative num den = .finite negative m e := by
  have hnum : num ≠ 0 := by
    rintro rfl
    have hone : (1 : ℚ) ≤ m := by exact_mod_cast hm
    have hclose := (abs_le.mp (h.abs_sub_le hm)).1
    rw [Nat.cast_zero, zero_div, zero_div] at hclose
    linarith
  rw [Binary64.ofRatio_eq negative hnum]
  by_cases hlow : -1074 < e ∧ (num : ℚ) / den / 2 ^ e < 2 ^ 52
  · exact h.ofCount_of_lt hn hden hlow.1 hlow.2 negative
  · have hunit := h.unitOf_eq hn hm hnum hden fun he => not_lt.mp fun hlt => hlow ⟨he, hlt⟩
    have hcount : countOf num den = m := by
      rw [countOf, hunit]
      apply roundHalfEven_eq (inUnits_snd_pos hden)
      · rw [inUnits_div]
        exact h.abs_sub_le hm
      · rw [inUnits_div]
        exact h.abs_sub_lt hm
    rw [hunit, hcount, ofCount, if_neg hn.lt.ne, ofParts_of_le negative hn.greatest]

end Nearest

section Results

variable {negative : Bool} {num den m : Nat} {e : Int}

theorem isNormal_zero (negative : Bool) : (zero negative).IsNormal :=
  ⟨by decide, by decide, by decide, .inr rfl⟩

theorem isNormal_ofParts (hm : m < 2 ^ 53) (he : -1074 ≤ e) (hfull : 2 ^ 52 ≤ m ∨ e = -1074) :
    (ofParts negative m e).IsNormal := by
  rw [ofParts]
  split
  · trivial
  · next hle => exact ⟨hm, he, Int.not_lt.mp hle, hfull⟩

theorem isNormal_ofCount (hm : m ≤ 2 ^ 53) (he : -1074 ≤ e) (hfull : 2 ^ 52 ≤ m ∨ e = -1074) :
    (ofCount negative m e).IsNormal := by
  rw [ofCount]
  split
  · exact isNormal_ofParts (by decide) (by omega) (.inl (Nat.le_refl _))
  · next hne => exact isNormal_ofParts (Nat.lt_of_le_of_ne hm hne) he hfull

/-- The unit leaves the count 53 bits. -/
theorem countOf_le (hden : 0 < den) : countOf num den ≤ 2 ^ 53 := by
  have hpos : (0 : ℚ) < 2 ^ unitOf num den := zpow_pos two_pos _
  have hd : 0 < (inUnits num den (unitOf num den)).2 := inUnits_snd_pos hden
  have hle : (num : ℚ) / den / 2 ^ unitOf num den ≤ 2 ^ 53 := by
    rw [div_le_iff₀' hpos, ← zpow_natCast (2 : ℚ) 53, ← zpow_add₀ two_ne_zero]
    refine (lt_two_zpow_floorLog2 hden).le.trans (zpow_le_zpow_right₀ one_le_two ?_)
    rw [unitOf]
    push_cast
    omega
  rw [← inUnits_div, div_le_iff₀ (Nat.cast_pos.mpr hd)] at hle
  exact roundHalfEven_le hd (by exact_mod_cast hle)

/-- A unit above the least one is as small as it leaves the count 53 bits. -/
theorem le_countOf (hnum : num ≠ 0) (hden : 0 < den) (hunit : -1074 < unitOf num den) :
    2 ^ 52 ≤ countOf num den := by
  have hpos : (0 : ℚ) < 2 ^ unitOf num den := zpow_pos two_pos _
  have hd : 0 < (inUnits num den (unitOf num den)).2 := inUnits_snd_pos hden
  have hle : (2 : ℚ) ^ 52 ≤ num / den / 2 ^ unitOf num den := by
    rw [le_div_iff₀' hpos, ← zpow_natCast (2 : ℚ) 52, ← zpow_add₀ two_ne_zero]
    refine le_trans (zpow_le_zpow_right₀ one_le_two ?_) (two_zpow_floorLog2_le hnum hden)
    rw [unitOf] at hunit ⊢
    push_cast
    omega
  rw [← inUnits_div] at hle
  have hround : 2 ^ 52 - 1 < countOf num den := by
    rw [countOf, lt_roundHalfEven_iff_add_half hd]
    push_cast
    exact .inl (lt_of_lt_of_le (by norm_num) hle)
  omega

/-- Every rounded quotient is in normal form. -/
theorem isNormal_ofRatio (negative : Bool) (num : Nat) (hden : 0 < den) :
    (ofRatio negative num den).IsNormal := by
  by_cases hnum : num = 0
  · rw [ofRatio, if_pos hnum]
    exact isNormal_zero negative
  · have hleast : -1074 ≤ unitOf num den := le_max_right _ _
    rw [ofRatio_eq negative hnum]
    apply isNormal_ofCount (countOf_le hden) hleast
    rcases hleast.lt_or_eq with hunit | hunit
    · exact .inl (le_countOf hnum hden hunit)
    · exact .inr hunit.symm

/-- So is the number nearest to a decimal. -/
theorem isNormal_ofDecimal (negative : Bool) (digits : Nat) (exponent : Int) :
    (ofDecimal negative digits exponent).IsNormal := by
  rw [ofDecimal]
  dsimp only
  split_ifs
  · exact isNormal_zero negative
  · trivial
  · exact isNormal_zero negative
  · exact isNormal_ofRatio negative _ Nat.one_pos
  · exact isNormal_ofRatio negative digits (powerOfTen_pos _)

end Results

section Decimals

variable {m n : Nat} {e k : Int} {q : ℚ}

theorem cast_powerOfTen (hk : 0 ≤ k) : (powerOfTen k : ℚ) = 10 ^ k := by
  obtain ⟨n, rfl⟩ := Int.eq_ofNat_of_zero_le hk
  exact (Nat.cast_pow 10 n).trans (zpow_natCast 10 n).symm

/-- A quotient that is rounded to a finite number is below the bound of the format. -/
theorem RoundsTo.lt_bound (h : RoundsTo m e q) (hn : IsNormalForm m e) (hm : 0 < m) :
    q < 2 ^ (1024 : Int) := by
  have hpos : (0 : ℚ) < 2 ^ e := zpow_pos two_pos e
  have hlarge : (m : ℚ) + 1 ≤ 2 ^ 53 := by exact_mod_cast hn.lt
  have hlt : q / 2 ^ e < 2 ^ (53 : Int) := by
    exact_mod_cast lt_of_lt_of_le (b := (m : ℚ) + 1) (by linarith [(abs_le.mp (h.abs_sub_le hm)).2])
      hlarge
  rw [div_lt_iff₀ hpos, ← zpow_add₀ two_ne_zero] at hlt
  exact hlt.trans_le (zpow_le_zpow_right₀ one_le_two (by have := hn.greatest; omega))

/-- A quotient that is rounded to a number other than zero is at least half of the least number. -/
theorem RoundsTo.bound_le (h : RoundsTo m e q) (hn : IsNormalForm m e) (hm : 0 < m) :
    (2 : ℚ) ^ (-1075 : Int) ≤ q := by
  have hpos : (0 : ℚ) < 2 ^ e := zpow_pos two_pos e
  have hone : (1 : ℚ) ≤ m := by exact_mod_cast hm
  have hle : (2 : ℚ) ^ (-1 : Int) ≤ q / 2 ^ e := by
    rw [zpow_neg_one]
    linarith [(abs_le.mp (h.abs_sub_le hm)).1]
  rw [le_div_iff₀ hpos, ← zpow_add₀ two_ne_zero] at hle
  exact (zpow_le_zpow_right₀ one_le_two (by have := hn.least; omega)).trans hle

theorem ten_zpow_le_of_log2 (hn : n ≠ 0) : (10 : ℚ) ^ ((Nat.log2 n : Int) / 4 + k) ≤ n * 10 ^ k := by
  have hlog : (10 : ℚ) ^ ((Nat.log2 n : Int) / 4) ≤ n := by
    have hle : 10 ^ (Nat.log2 n / 4) ≤ n := by
      calc 10 ^ (Nat.log2 n / 4)
        _ ≤ (2 ^ 4) ^ (Nat.log2 n / 4) := Nat.pow_le_pow_left (by decide) _
        _ = 2 ^ (4 * (Nat.log2 n / 4)) := (Nat.pow_mul ..).symm
        _ ≤ 2 ^ Nat.log2 n := Nat.pow_le_pow_right (by decide) (by omega)
        _ ≤ n := Nat.log2_self_le hn
    exact_mod_cast hle
  rw [zpow_add₀ (by norm_num)]
  exact mul_le_mul_of_nonneg_right hlog (zpow_nonneg (by norm_num) k)

theorem lt_ten_zpow_of_log2 : (n : ℚ) * 10 ^ k < 10 ^ ((Nat.log2 n : Int) + k + 1) := by
  have hlog : (n : ℚ) < 10 ^ ((Nat.log2 n : Int) + 1) := by
    have hlt : n < 10 ^ (Nat.log2 n + 1) :=
      Nat.lt_log2_self.trans_le (Nat.pow_le_pow_left (by decide) _)
    exact_mod_cast hlt
  rw [add_right_comm, zpow_add₀ (by norm_num)]
  exact mul_lt_mul_of_pos_right hlog (zpow_pos (by norm_num) k)

/-- Three bits are less than a decimal digit. -/
theorem two_pow_le_ten_pow (k : Nat) : (2 : ℚ) ^ (3 * k) ≤ 10 ^ k := by
  rw [pow_mul]
  exact pow_le_pow_left₀ (by norm_num) (by norm_num) k

/-- A decimal that is rounded to a number in normal form gives that number: it is neither too large
nor too small to be computed. -/
theorem RoundsTo.ofDecimal_eq (h : RoundsTo m e (n * 10 ^ k)) (hn : IsNormalForm m e) (hm : 0 < m)
    (negative : Bool) : ofDecimal negative n k = .finite negative m e := by
  have hlow := h.bound_le hn hm
  have hhigh := h.lt_bound hn hm
  have hne : n ≠ 0 := by
    rintro rfl
    rw [Nat.cast_zero, zero_mul] at hlow
    exact absurd hlow (zpow_pos two_pos _).not_ge
  have hmagnitude : ¬ (Nat.log2 n : Int) / 4 + k > 400 := by
    intro hlarge
    refine absurd hhigh (not_lt.mpr ?_)
    calc (2 : ℚ) ^ (1024 : Int)
      _ ≤ 2 ^ ((3 * 400 : Nat) : Int) := zpow_le_zpow_right₀ one_le_two (by decide)
      _ ≤ 10 ^ ((400 : Nat) : Int) := by
        rw [zpow_natCast, zpow_natCast]
        exact two_pow_le_ten_pow 400
      _ ≤ 10 ^ ((Nat.log2 n : Int) / 4 + k) := zpow_le_zpow_right₀ (by norm_num) (by omega)
      _ ≤ n * 10 ^ k := ten_zpow_le_of_log2 hne
  have hhighest : ¬ (Nat.log2 n : Int) + k < -400 := by
    intro hsmall
    refine absurd hlow (not_le.mpr ?_)
    calc (n : ℚ) * 10 ^ k
      _ < 10 ^ ((Nat.log2 n : Int) + k + 1) := lt_ten_zpow_of_log2
      _ ≤ 10 ^ (-((400 : Nat) : Int)) := zpow_le_zpow_right₀ (by norm_num) (by omega)
      _ ≤ 2 ^ (-((3 * 400 : Nat) : Int)) := by
        rw [zpow_neg, zpow_neg, zpow_natCast, zpow_natCast]
        exact inv_anti₀ (pow_pos two_pos _) (two_pow_le_ten_pow 400)
      _ ≤ 2 ^ (-1075 : Int) := zpow_le_zpow_right₀ one_le_two (by decide)
  rw [ofDecimal, if_neg hne, if_neg hmagnitude, if_neg hhighest]
  split
  · next hk =>
      apply RoundsTo.ofRatio_eq _ hn hm Nat.one_pos
      rwa [Nat.cast_one, div_one, Nat.cast_mul, cast_powerOfTen hk]
  · next hk =>
      apply RoundsTo.ofRatio_eq _ hn hm (powerOfTen_pos _)
      rwa [cast_powerOfTen (by omega), zpow_neg, div_inv_eq_mul]

end Decimals

end MarkerLint.Binary64
