import Mathlib.Data.List.TakeDrop
import MarkerLint.Proofs.JsonReader
import MarkerLint.Proofs.ShortestDigits

/-!
# Numbers in JSON

Integers and finite numbers are read back as they were written. A number is written as digits,
places after a point and an exponent, in one of several layouts, and all of them stand for the same
decimal. Infinite numbers are written as words that the reader does not take.
-/

namespace MarkerLint.Json

open Binary64 Shortest

section Parts

variable {ds rest : List Char}

/-- The character would go on with a number before it. -/
def continuesNumber (c : Char) : Bool :=
  Text.isAsciiDigit c || c == '.' || c == 'e' || c == 'E'

/-- A number ends before the text. -/
def EndsNumber (rest : List Char) : Prop :=
  ∀ c, rest.head? = some c → continuesNumber c = false

/-- No digit comes next. -/
def EndsDigits (rest : List Char) : Prop :=
  ∀ c, rest.head? = some c → Text.isAsciiDigit c = false

/-- The digits before a point: a zero alone, or digits that begin with no zero. -/
def IsWhole (whole : List Char) : Prop :=
  whole = ['0'] ∨ IsLeading whole

/-- Places with a point before them, if there are any. -/
def placesText (places : List Char) : List Char :=
  if places.isEmpty then [] else '.' :: places

/-- An exponent with its letter, if there is one. -/
def exponentPart : Option Int → List Char
  | none => []
  | some e => 'e' :: exponentText e

theorem EndsNumber.endsDigits (h : EndsNumber rest) : EndsDigits rest := by
  intro c hc
  have hcontinues := h c hc
  simp only [continuesNumber, Bool.or_eq_false_iff] at hcontinues
  exact hcontinues.1.1.1

theorem endsDigits_cons {c : Char} (hc : Text.isAsciiDigit c = false) (rest : List Char) :
    EndsDigits (c :: rest) := by
  intro d hd
  rwa [← Option.some.inj hd]

theorem span_digits (hdigits : ∀ c ∈ ds, Text.isAsciiDigit c = true) (hrest : EndsDigits rest) :
    (ds ++ rest).span Text.isAsciiDigit = (ds, rest) := by
  have hnone : rest.takeWhile Text.isAsciiDigit = [] ∧ rest.dropWhile Text.isAsciiDigit = rest := by
    cases rest with
    | nil => exact ⟨rfl, rfl⟩
    | cons c rest => simp [hrest c rfl]
  rw [List.span_eq_takeWhile_dropWhile, List.takeWhile_append_of_pos hdigits,
    List.dropWhile_append_of_pos hdigits, hnone.1, hnone.2, List.append_nil]

theorem isAsciiDigit_of_mem_replicate (count : Nat) :
    ∀ c ∈ List.replicate count '0', Text.isAsciiDigit c = true := by
  intro c hc
  rw [List.eq_of_mem_replicate hc]
  decide

theorem IsWhole.digits {whole : List Char} (h : IsWhole whole) :
    ∀ c ∈ whole, Text.isAsciiDigit c = true := by
  rcases h with rfl | h
  · exact isAsciiDigit_of_mem_replicate 1
  · exact h.digits

theorem IsWhole.whole?_append {whole : List Char} (h : IsWhole whole) (hrest : EndsDigits rest) :
    whole? (whole ++ rest) = some (whole, rest) := by
  rcases h with rfl | h
  · rfl
  · obtain ⟨d, ds, rfl, hd⟩ := h.head
    have hspan := span_digits h.digits hrest
    rw [whole?.eq_def]
    split
    · next heq => cases heq; exact absurd rfl hd
    · rw [hspan]

theorem places?_append {places : List Char} (hplaces : ∀ c ∈ places, Text.isAsciiDigit c = true)
    (hdigits : EndsDigits rest) (hpoint : rest.head? ≠ some '.') :
    places? (placesText places ++ rest) = some (places, rest) := by
  cases places with
  | nil =>
      rw [placesText, List.isEmpty_nil, if_pos rfl, List.nil_append, places?.eq_def]
      split
      · exact absurd rfl hpoint
      · rfl
  | cons d ds =>
      rw [placesText, List.isEmpty_cons, if_neg Bool.false_ne_true, List.cons_append, places?,
        span_digits hplaces hdigits]

theorem exponent?_none (h : EndsNumber rest) : exponent? rest = some (none, rest) := by
  cases rest with
  | nil => rfl
  | cons c rest =>
      have hcontinues := h c rfl
      simp only [continuesNumber, Bool.or_eq_false_iff] at hcontinues
      rw [exponent?, hcontinues.1.2, hcontinues.2]
      rfl

/-- An exponent is written as a sign and the digits of its magnitude, at least two of them. -/
theorem exists_exponentText (e : Int) : ∃ ds, exponentText e = (if e < 0 then '-' else '+') :: ds ∧
    (∀ c ∈ ds, Text.isAsciiDigit c = true) ∧ ds ≠ [] ∧ Digits.number 10 ds = e.natAbs := by
  have hdigits : ∀ c ∈ digitsOf e.natAbs, Text.isAsciiDigit c = true :=
    fun c hc => Decimal.isAsciiDigit_of_mem_toDigits hc
  have hnumber : Digits.number 10 (digitsOf e.natAbs) = e.natAbs := Digits.number_toDigits _
  by_cases hlength : (digitsOf e.natAbs).length < 2
  · refine ⟨'0' :: digitsOf e.natAbs, by simp [exponentText, hlength], ?_, by simp, ?_⟩
    · exact List.forall_mem_cons.mpr ⟨by decide, hdigits⟩
    · have happend := Digits.number_append 10 ['0'] (digitsOf e.natAbs)
      have hzero : Digits.number 10 ['0'] = 0 := Digits.number_replicate_zero 10 1
      rw [hzero, Nat.zero_mul, Nat.zero_add, hnumber] at happend
      exact happend
  · exact ⟨digitsOf e.natAbs, by simp [exponentText, hlength], hdigits, Nat.toDigits_ne_nil, hnumber⟩

/-- An exponent is read back. -/
theorem exponent?_some (e : Int) (h : EndsDigits rest) :
    exponent? ('e' :: exponentText e ++ rest) = some (some e, rest) := by
  obtain ⟨ds, htext, hdigits, hne, hnumber⟩ := exists_exponentText e
  have hspan := span_digits hdigits h
  have hsign : signOf ((if e < 0 then '-' else '+') :: (ds ++ rest)) = (decide (e < 0), ds ++ rest) := by
    by_cases he : e < 0 <;> simp [he, signOf]
  rw [htext, List.cons_append, List.cons_append, exponent?]
  simp only [beq_self_eq_true, Bool.true_or, if_true, hsign, hspan]
  cases ds with
  | nil => exact absurd rfl hne
  | cons d ds =>
      simp only [hnumber, decide_eq_true_eq]
      congr 3
      split <;> omega

/-- What follows the whole digits begins with no digit. -/
theorem endsDigits_placesText (places : List Char) (h : EndsDigits rest) :
    EndsDigits (placesText places ++ rest) := by
  rw [placesText]
  split
  · exact h
  · exact endsDigits_cons (by decide) _

theorem endsDigits_exponentPart (exponent : Option Int) (h : EndsDigits rest) :
    EndsDigits (exponentPart exponent ++ rest) := by
  cases exponent with
  | none => exact h
  | some e => exact endsDigits_cons (by decide) _

/-- A number is read as its parts. -/
theorem unsigned?_append {whole places : List Char} (hwhole : IsWhole whole)
    (hplaces : ∀ c ∈ places, Text.isAsciiDigit c = true) (exponent : Option Int)
    (h : EndsNumber rest) (negative : Bool) :
    unsigned? negative (whole ++ (placesText places ++ (exponentPart exponent ++ rest))) =
      some (numberOf negative whole places exponent, rest) := by
  have hexponent := endsDigits_exponentPart exponent h.endsDigits
  have hpoint : (exponentPart exponent ++ rest).head? ≠ some '.' := by
    cases exponent with
    | none =>
        intro hhead
        exact absurd (h '.' hhead) (by decide)
    | some e => exact fun hhead => absurd (Option.some.inj hhead) (by decide)
  have hread : exponent? (exponentPart exponent ++ rest) = some (exponent, rest) := by
    cases exponent with
    | none => exact exponent?_none h
    | some e => exact exponent?_some e h.endsDigits
  rw [unsigned?, hwhole.whole?_append (endsDigits_placesText places hexponent)]
  simp only [places?_append hplaces hexponent hpoint, hread, bind, Option.bind]

end Parts

section Layouts

variable {ds : List Char} {k : Int}

/-- Zeros before digits add nothing. -/
theorem number_replicate_append (count : Nat) (ds : List Char) :
    Digits.number 10 (List.replicate count '0' ++ ds) = Digits.number 10 ds := by
  rw [Digits.number_append, Digits.number_replicate_zero, Nat.zero_mul, Nat.zero_add]

/-- The parts of a written number: the decimal that they stand for is that of the digits. -/
structure Writes (whole places : List Char) (exponent : Option Int) (ds : List Char) (k : Int) :
    Prop where
  isWhole : IsWhole whole
  areDigits : ∀ c ∈ places, Text.isAsciiDigit c = true
  isFraction : (places.isEmpty && exponent.isNone) = false
  value : (Digits.number 10 (whole ++ places) : ℚ) * 10 ^ (exponent.getD 0 - places.length) =
    Digits.number 10 ds * 10 ^ k

/-- Below one, zeros stand before the digits. -/
theorem writes_below (h : IsLeading ds) (count : Nat) (hk : (ds.length : Int) + k = -count) :
    Writes ['0'] (List.replicate count '0' ++ ds) none ds k where
  isWhole := .inl rfl
  areDigits := List.forall_mem_append.mpr ⟨isAsciiDigit_of_mem_replicate count, h.digits⟩
  isFraction := by
    obtain ⟨d, rest, rfl, -⟩ := h.head
    simp
  value := by
    have hnumber : Digits.number 10 (['0'] ++ (List.replicate count '0' ++ ds)) =
        Digits.number 10 ds := by
      rw [← List.append_assoc]
      exact number_replicate_append (count + 1) ds
    rw [hnumber, List.length_append, List.length_replicate, Option.getD_none]
    congr 2
    omega

/-- The point stands between the digits. -/
theorem writes_between (h : IsLeading ds) {n : Nat} (hn : 0 < n) (hlt : n < ds.length)
    (hk : (ds.length : Int) + k = n) : Writes (ds.take n) (ds.drop n) none ds k where
  isWhole := .inr (h.take hn)
  areDigits := fun c hc => h.digits c (List.mem_of_mem_drop hc)
  isFraction := by
    have hne : (ds.drop n).isEmpty = false := by simpa using hlt
    rw [hne, Bool.false_and]
  value := by
    rw [List.take_append_drop, List.length_drop, Option.getD_none]
    congr 2
    omega

/-- Zeros stand between the digits and the point. -/
theorem writes_above (h : IsLeading ds) (count : Nat) (hk : k = count) :
    Writes (ds ++ List.replicate count '0') ['0'] none ds k where
  isWhole := .inr (h.append (isAsciiDigit_of_mem_replicate count))
  areDigits := isAsciiDigit_of_mem_replicate 1
  isFraction := rfl
  value := by
    have hzeros : List.replicate count '0' ++ ['0'] = List.replicate (count + 1) '0' :=
      List.replicate_succ'.symm
    subst hk
    rw [List.append_assoc, hzeros, Digits.number_append, Digits.number_replicate_zero, Nat.add_zero,
      List.length_replicate, Nat.cast_mul, Nat.cast_pow, Nat.cast_ofNat, mul_assoc, ← zpow_natCast,
      ← zpow_add₀ (by norm_num)]
    congr 2
    rw [Option.getD_none, List.length_singleton]
    omega

/-- The point stands after the first digit, and an exponent follows. -/
theorem writes_scientific {d : Char} {rest : List Char} (h : IsLeading (d :: rest)) (k : Int) :
    Writes [d] rest (some (rest.length + k)) (d :: rest) k where
  isWhole := .inr (h.take (n := 1) Nat.one_pos)
  areDigits := fun c hc => h.digits c (List.mem_cons_of_mem _ hc)
  isFraction := Bool.and_false _
  value := by
    rw [List.singleton_append, Option.getD_some]
    congr 2
    omega

/-- The text of a number in the layout is made of such parts. -/
theorem exists_writes (h : IsLeading ds) (k : Int) : ∃ whole places exponent,
    Layout.plain.render ds k = whole ++ (placesText places ++ exponentPart exponent) ∧
      Writes whole places exponent ds k := by
  obtain ⟨d, rest, hds, -⟩ := h.head
  rw [Layout.render.eq_def]
  dsimp only
  split
  · split
    · next hpoint =>
        refine ⟨_, _, _, ?_, writes_below h (-((ds.length : Int) + k)).toNat (by omega)⟩
        simp [placesText, exponentPart, hds]
    · split
      · next hpoint hcount =>
          refine ⟨_, _, _, ?_, writes_between h (n := ((ds.length : Int) + k).toNat) (by omega)
            (by omega) (by omega)⟩
          have hne : (ds.drop ((ds.length : Int) + k).toNat).isEmpty = false := by
            simp
            omega
          simp [placesText, exponentPart, hne]
      · next hpoint hcount =>
          refine ⟨_, _, _, ?_, writes_above h ((ds.length : Int) + k - ds.length).toNat
            (by omega)⟩
          simp [placesText, exponentPart, Layout.plain]
  · subst hds
    refine ⟨_, _, _, ?_, writes_scientific h k⟩
    cases rest with
    | nil => simp [placesText, exponentPart]
    | cons d' rest =>
        have hexponent : ((rest.length : Int) + 1 + 1 + k) - 1 = rest.length + 1 + k := by omega
        simp [placesText, exponentPart, hexponent]

end Layouts

section Values

variable {m : Nat} {e k : Int} {ds rest whole places : List Char} {exponent : Option Int}

/-- The sign of a number. -/
def signText (negative : Bool) : List Char :=
  if negative then ['-'] else []

theorem IsWhole.exists_cons (h : IsWhole whole) :
    ∃ d others, whole = d :: others ∧ Text.isAsciiDigit d = true := by
  cases whole with
  | nil =>
      rcases h with h | h
      · cases h
      · obtain ⟨d, others, heq, -⟩ := h.head
        cases heq
  | cons d others => exact ⟨d, others, rfl, h.digits d List.mem_cons_self⟩

theorem value?_minus (fuel : Nat) (cs : List Char) :
    value? (fuel + 1) ('-' :: cs) = unsigned? true cs := by
  simp [value?, number?]

theorem value?_digit {d : Char} (hd : Text.isAsciiDigit d = true) (fuel : Nat) (cs : List Char) :
    value? (fuel + 1) (d :: cs) = unsigned? false (d :: cs) := by
  have hne {c : Char} (hc : Text.isAsciiDigit c = false) : d ≠ c := by
    rintro rfl
    rw [hd] at hc
    cases hc
  have hnumber : number? (d :: cs) = unsigned? false (d :: cs) := by
    rw [number?.eq_def]
    split
    · next heq => cases heq; exact absurd rfl (hne (by decide))
    · rfl
  rw [value?, if_neg (hne (by decide)), if_neg (hne (by decide)), if_neg (hne (by decide)),
    if_neg (hne (by decide)), if_neg (hne (by decide)), if_neg (hne (by decide)), hnumber]

/-- A number that is written as parts is read as the number that they make. -/
theorem value?_parts (hwhole : IsWhole whole) (hplaces : ∀ c ∈ places, Text.isAsciiDigit c = true)
    (exponent : Option Int) (hrest : EndsNumber rest) (negative : Bool) (fuel : Nat) :
    value? (fuel + 1)
        (signText negative ++ (whole ++ (placesText places ++ exponentPart exponent)) ++ rest) =
      some (numberOf negative whole places exponent, rest) := by
  have hread := unsigned?_append hwhole hplaces exponent hrest negative
  cases negative with
  | true =>
      simp only [signText, if_true, List.cons_append, List.nil_append, List.append_assoc]
      rw [value?_minus, hread]
  | false =>
      obtain ⟨d, others, rfl, hd⟩ := hwhole.exists_cons
      simp only [signText, Bool.false_eq_true, if_false, List.cons_append, List.nil_append,
        List.append_assoc] at hread ⊢
      rw [value?_digit hd, hread]

theorem isWhole_toDigits (n : Nat) : IsWhole (Nat.toDigits 10 n) := by
  rcases Nat.eq_zero_or_pos n with rfl | hn
  · exact .inl rfl
  · have hhead := head?_digitsOf_ne hn
    refine .inr ⟨fun c hc => Decimal.isAsciiDigit_of_mem_toDigits hc, ?_⟩
    cases hdigits : Nat.toDigits 10 n with
    | nil => exact absurd hdigits Nat.toDigits_ne_nil
    | cons d rest =>
        rw [digitsOf, hdigits] at hhead
        exact ⟨d, rest, rfl, fun hd => hhead (congrArg some hd)⟩

/-- An integer is read back. -/
theorem value?_integer (i : Int) (hrest : EndsNumber rest) (fuel : Nat) :
    value? (fuel + 1) ((Decimal.text i).toList ++ rest) = some (.integer i, rest) := by
  have hparts := value?_parts (isWhole_toDigits i.natAbs) (List.forall_mem_nil _) none
    hrest (decide (i < 0)) fuel
  have hnumber : numberOf (decide (i < 0)) (Nat.toDigits 10 i.natAbs) [] none = .integer i := by
    rw [numberOf, List.isEmpty_nil, Option.isNone_none, Bool.and_self, if_pos rfl,
      Digits.number_toDigits, signed]
    congr 1
    simp only [decide_eq_true_eq]
    split <;> omega
  rw [hnumber] at hparts
  rw [← hparts]
  rcases Int.lt_or_le i 0 with hi | hi
  · simp [Decimal.toList_text_of_neg hi, signText, hi, placesText, exponentPart]
  · simp [Decimal.toList_text_of_nonneg hi, signText, Int.not_lt.mpr hi, placesText, exponentPart]

theorem withSign_finite (negative : Bool) (m : Nat) (e : Int) :
    withSign negative (.finite false m e) = .finite negative m e := by
  cases negative <;> rfl

/-- Parts that stand for a decimal make the number that it is rounded to. -/
theorem Writes.numberOf_eq (h : Writes whole places exponent ds k)
    (hrounds : RoundsTo m e (Digits.number 10 ds * 10 ^ k)) (hn : IsNormalForm m e) (hm : 0 < m)
    (negative : Bool) : numberOf negative whole places exponent = .float (.finite negative m e) := by
  rw [← h.value] at hrounds
  rw [numberOf, h.isFraction, if_neg Bool.false_ne_true, Fraction.value, hrounds.ofDecimal_eq hn hm,
    withSign_finite]

/-- A finite number is written as parts that make it. -/
theorem exists_floatText (hn : IsNormalForm m e) (negative : Bool) : ∃ whole places exponent,
    (floatText (.finite negative m e)).toList =
        signText negative ++ (whole ++ (placesText places ++ exponentPart exponent)) ∧
      IsWhole whole ∧ (∀ c ∈ places, Text.isAsciiDigit c = true) ∧
      numberOf negative whole places exponent = .float (.finite negative m e) := by
  have htext (body : List Char) :
      (String.ofList (if negative then '-' :: body else body)).toList = signText negative ++ body := by
    cases negative <;> simp [signText]
  rcases Nat.eq_zero_or_pos m with rfl | hm
  · obtain rfl : e = -1074 := hn.full.resolve_left (by decide)
    refine ⟨['0'], ['0'], none, htext _, .inl rfl, isAsciiDigit_of_mem_replicate 1, ?_⟩
    cases negative <;> rfl
  · obtain ⟨ds, k, hdecimal, hleading, hrounds⟩ := exists_decimal hn hm
    obtain ⟨whole, places, exponent, hrender, hwrites⟩ := exists_writes hleading k
    refine ⟨whole, places, exponent, ?_, hwrites.isWhole, hwrites.areDigits,
      hwrites.numberOf_eq hrounds hn hm negative⟩
    have hfloat : floatText (.finite negative m e) = textIn .plain (.finite negative m e) := rfl
    rw [← hrender, ← htext, hfloat, textIn, if_neg hm.ne', hdecimal]

/-- A finite number in normal form is read back. -/
theorem value?_float {x : Binary64} (hx : x.IsNormal) (hfinite : x.isFinite = true)
    (hrest : EndsNumber rest) (fuel : Nat) :
    value? (fuel + 1) ((floatText x).toList ++ rest) = some (.float x, rest) := by
  cases x with
  | finite negative m e =>
      obtain ⟨whole, places, exponent, htext, hwhole, hplaces, hnumber⟩ := exists_floatText hx negative
      rw [htext, value?_parts hwhole hplaces exponent hrest, hnumber]
  | infinite negative => cases hfinite
  | nan => cases hfinite

/-- Any other number is not read. -/
theorem value?_of_not_isFinite {x : Binary64} (h : x.isFinite = false) (fuel : Nat)
    (rest : List Char) : value? fuel ((floatText x).toList ++ rest) = none := by
  cases fuel with
  | zero => exact value?.eq_1 _
  | succ fuel =>
      cases x with
      | finite negative m e => cases h
      | infinite negative => cases negative <;> rfl
      | nan => rfl

end Values

end MarkerLint.Json
