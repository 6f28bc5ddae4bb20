import Mathlib.Data.List.Chain
import MarkerLint.Text.CodePoint

/-!
# Surrogates in pairs

In units of 16 bits a character with a greater number is written as two surrogates, a high one and a
low one. Reading units back makes a character of every such pair, and the text may have had the two
surrogates of a pair as neighbours before. It is read back as it was exactly if it had none.
-/

namespace MarkerLint

namespace CodePoint

/-- A high surrogate and a low one. -/
def IsPair : CodePoint → CodePoint → Prop
  | .surrogate high, .surrogate low => high.val < 0x400 ∧ 0x400 ≤ low.val
  | _, _ => False

instance : DecidableRel IsPair
  | .surrogate _, .surrogate _ => inferInstanceAs (Decidable (_ ∧ _))
  | .surrogate _, .char _ => .isFalse id
  | .char _, _ => .isFalse id

/-- The character of a pair. -/
def pairChar (high low : CodePoint) : Char :=
  Char.ofNat
    (0x10000 + (high.toNat - firstSurrogate) * 0x400 + (low.toNat - firstSurrogate - 0x400))

/-- The high surrogate of a character beyond 16 bits. -/
def highOf (c : Char) : CodePoint :=
  .ofNat (0xD800 + (c.toNat - 0x10000) / 0x400)

/-- The low surrogate of a character beyond 16 bits. -/
def lowOf (c : Char) : CodePoint :=
  .ofNat (0xDC00 + (c.toNat - 0x10000) % 0x400)

/-- The code point in units of 16 bits. -/
def units : CodePoint → CodeText
  | .char c => if c.toNat < 0x10000 then [.char c] else [highOf c, lowOf c]
  | .surrogate offset => [.surrogate offset]

section Units

variable {c : Char} {p q : CodePoint}

theorem toNat_valid (c : Char) : c.toNat < 0xD800 ∨ (0xDFFF < c.toNat ∧ c.toNat < 0x110000) :=
  c.valid

theorem ofNat_toNat (c : Char) : ofNat c.toNat = .char c := by
  have hvalid := toNat_valid c
  rw [ofNat, dif_neg (by rw [firstSurrogate]; omega), Char.ofNat_toNat]

theorem ofNat_surrogate (offset : Fin 0x800) :
    ofNat (surrogate offset).toNat = .surrogate offset := by
  have hlt := offset.isLt
  have hsub : firstSurrogate + offset.val - firstSurrogate = offset.val :=
    Nat.add_sub_cancel_left ..
  rw [toNat, ofNat, dif_pos (by omega)]
  simp only [hsub]

theorem highOf_eq (hc : 0x10000 ≤ c.toNat) :
    ∃ high : Fin 0x800, highOf c = .surrogate high ∧ high.val = (c.toNat - 0x10000) / 0x400 ∧
      high.val < 0x400 := by
  have hvalid := toNat_valid c
  have hhigh : (c.toNat - 0x10000) / 0x400 < 0x400 := by omega
  refine ⟨⟨(c.toNat - 0x10000) / 0x400, by omega⟩, ?_, rfl, hhigh⟩
  exact ofNat_surrogate ⟨(c.toNat - 0x10000) / 0x400, by omega⟩

theorem lowOf_eq (c : Char) :
    ∃ low : Fin 0x800, lowOf c = .surrogate low ∧
      low.val = 0x400 + (c.toNat - 0x10000) % 0x400 := by
  have hlow : (c.toNat - 0x10000) % 0x400 < 0x400 := Nat.mod_lt _ (by decide)
  have hcode : 0xDC00 + (c.toNat - 0x10000) % 0x400 =
      firstSurrogate + (0x400 + (c.toNat - 0x10000) % 0x400) := by rw [firstSurrogate]; omega
  refine ⟨⟨0x400 + (c.toNat - 0x10000) % 0x400, by omega⟩, ?_, rfl⟩
  rw [lowOf, hcode]
  exact ofNat_surrogate ⟨0x400 + (c.toNat - 0x10000) % 0x400, by omega⟩

/-- The two surrogates of a character are a pair, and its character is that one. -/
theorem isPair_highOf_lowOf (hc : 0x10000 ≤ c.toNat) :
    IsPair (highOf c) (lowOf c) ∧ pairChar (highOf c) (lowOf c) = c := by
  obtain ⟨high, hhigh, hhighval, hsmall⟩ := highOf_eq hc
  obtain ⟨low, hlow, hlowval⟩ := lowOf_eq c
  rw [hhigh, hlow]
  refine ⟨⟨hsmall, by omega⟩, ?_⟩
  have hsum : 0x10000 + (firstSurrogate + high.val - firstSurrogate) * 0x400 +
      (firstSurrogate + low.val - firstSurrogate - 0x400) = c.toNat := by omega
  rw [pairChar, toNat, toNat, hsum, Char.ofNat_toNat]

theorem units_of_isPair (h : IsPair p q) : units p = [p] ∧ units q = [q] := by
  cases p with
  | char => cases h
  | surrogate =>
      cases q with
      | char => cases h
      | surrogate => exact ⟨rfl, rfl⟩

/-- A code point makes a pair with the first unit of another only if it does so with that itself. -/
theorem isPair_of_head?_units {u : CodePoint} (hu : (units q).head? = some u) (h : IsPair p u) :
    IsPair p q := by
  cases q with
  | surrogate => cases hu; exact h
  | char c =>
      rw [units] at hu
      split at hu
      · cases hu
        exact h
      · next hc =>
          cases hu
          obtain ⟨high, hhigh, -, hsmall⟩ := highOf_eq (Nat.not_lt.mp hc)
          rw [hhigh] at h
          cases p with
          | char => cases h
          | surrogate => exact absurd h.2 (Nat.not_le.mpr hsmall)

end Units

end CodePoint

namespace CodeText

open CodePoint

/-- The text with one character for each pair of surrogates. -/
def joined : CodeText → CodeText
  | [] => []
  | [p] => [p]
  | p :: q :: rest =>
      if IsPair p q then .char (pairChar p q) :: joined rest else p :: joined (q :: rest)

/-- No two neighbours are a pair. -/
def IsPairless (t : CodeText) : Prop :=
  t.IsChain fun p q => ¬ IsPair p q

instance : DecidablePred IsPairless :=
  fun t => inferInstanceAs (Decidable (t.IsChain _))

section Pairs

variable {p : CodePoint} {t : CodeText}

theorem joined_cons (h : ∀ q, t.head? = some q → ¬ IsPair p q) :
    joined (p :: t) = p :: joined t := by
  cases t with
  | nil => rfl
  | cons q rest => rw [joined, if_neg (h q rfl)]

theorem joined_units_append (h : ∀ q, t.head? = some q → ¬ IsPair p q) :
    joined (units p ++ t) = p :: joined t := by
  cases p with
  | surrogate => exact joined_cons h
  | char c =>
      rw [units]
      split
      · exact joined_cons h
      · next hc =>
          obtain ⟨hpair, hchar⟩ := isPair_highOf_lowOf (Nat.not_lt.mp hc)
          rw [List.cons_append, List.singleton_append, joined, if_pos hpair, hchar]

/-- What is read back from its units is the text with its pairs joined. -/
theorem joined_flatMap_units (t : CodeText) : joined (t.flatMap units) = joined t := by
  fun_induction joined t with
  | case1 => rfl
  | case2 p =>
      have hread : joined (units p ++ []) = [p] := joined_units_append (by simp)
      simpa using hread
  | case3 p q rest hpair ih =>
      obtain ⟨hp, hq⟩ := units_of_isPair hpair
      rw [List.flatMap_cons, List.flatMap_cons, hp, hq, List.singleton_append,
        List.singleton_append, joined, if_pos hpair, ih]
  | case4 p q rest hpair ih =>
      rw [List.flatMap_cons, joined_units_append, ih]
      intro u hu hpu
      have hne : units q ≠ [] := by
        cases q with
        | surrogate => simp [units]
        | char c => rw [units]; split <;> simp
      obtain ⟨v, vs, hv⟩ := List.exists_cons_of_ne_nil hne
      rw [List.flatMap_cons, hv] at hu
      obtain rfl := Option.some.inj hu
      exact hpair (isPair_of_head?_units (by rw [hv]; rfl) hpu)

theorem length_joined_le (t : CodeText) : (joined t).length ≤ t.length := by
  fun_induction joined t with
  | case1 => exact Nat.le_refl _
  | case2 p => exact Nat.le_refl _
  | case3 p q rest _ ih => simp only [List.length_cons]; omega
  | case4 p q rest _ ih => simp only [List.length_cons] at ih ⊢; omega

/-- Joining pairs changes nothing exactly if there are none. -/
theorem joined_eq_self_iff : joined t = t ↔ IsPairless t := by
  rw [IsPairless]
  fun_induction joined t with
  | case1 => simp
  | case2 p => simp
  | case3 p q rest hpair ih =>
      refine iff_of_false (fun h => ?_) (fun h => (List.isChain_cons_cons.mp h).1 hpair)
      have hlength := congrArg List.length h
      have hle := length_joined_le rest
      simp only [List.length_cons] at hlength
      omega
  | case4 p q rest hpair ih =>
      rw [List.cons_inj_right, ih, List.isChain_cons_cons]
      exact (and_iff_right hpair).symm

end Pairs

end CodeText

end MarkerLint
