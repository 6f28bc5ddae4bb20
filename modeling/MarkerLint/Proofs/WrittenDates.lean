import Mathlib.Data.List.Forall2
import Mathlib.Tactic.IntervalCases
import MarkerLint.Calendar

/-!
# Written dates

A date is written with four digits for its year and two each for its month and day. The texts of this
form are the written forms of dates, each of one date, and they stand in the order of their dates:
numbers with the same count of digits are compared digit by digit. Which dates are days is a matter of
the lengths of the months.
-/

namespace MarkerLint.Calendar

open Text

/-- The last digits of a number in decimal, as many as asked for. -/
def padded : Nat → Nat → List Char
  | 0, _ => []
  | k + 1, n => padded k (n / 10) ++ [Nat.digitChar (n % 10)]

/-- The date with four digits for the year and two each for the month and the day. -/
def Date.written (d : Date) : List Char :=
  padded 4 d.year ++ '-' :: (padded 2 d.month ++ '-' :: padded 2 d.day)

/-- The numbers of the date have no more digits than are written. -/
structure Date.IsWritable (d : Date) : Prop where
  year_lt : d.year < 10 ^ 4
  month_lt : d.month < 10 ^ 2
  day_lt : d.day < 10 ^ 2

/-- The character fills the place of the pattern: any digit that of a `d`, another character its own.
-/
def Fills (place c : Char) : Prop :=
  if place = 'd' then isAsciiDigit c = true else c = place

/-- The text is four digits, two digits and two digits, with hyphens between them. -/
def HasDatePattern (s : String) : Prop :=
  List.Forall₂ Fills "dddd-dd-dd".toList s.toList

/-- Every fourth year has a leap day, but of the full centuries every fourth only. -/
def HasLeapDay (year : Nat) : Prop :=
  4 ∣ year ∧ (100 ∣ year → 400 ∣ year)

instance : DecidablePred HasLeapDay :=
  fun year => inferInstanceAs (Decidable (4 ∣ year ∧ (100 ∣ year → 400 ∣ year)))

/-- The number of days of each month of a year, from January on. -/
def monthLengths (year : Nat) : List Nat :=
  [31, if HasLeapDay year then 29 else 28, 31, 30, 31, 30, 31, 31, 30, 31, 30, 31]

/-- The date is a day of the Gregorian calendar in the years 1 to 9999. -/
structure Date.IsGregorian (d : Date) : Prop where
  year_pos : 1 ≤ d.year
  year_le : d.year ≤ 9999
  month_pos : 1 ≤ d.month
  day_pos : 1 ≤ d.day
  day_le : ∃ length, (monthLengths d.year)[d.month - 1]? = some length ∧ d.day ≤ length

/-- The text is the written form of a day. -/
def NamesDay (s : String) : Prop :=
  ∃ d : Date, d.IsGregorian ∧ s.toList = d.written

section Order

variable {k a b : Nat}

theorem length_padded (k n : Nat) : (padded k n).length = k := by
  induction k generalizing n with
  | zero => rfl
  | succ k ih => rw [padded, List.length_append, ih, List.length_singleton]

/-- Texts with beginnings of one length are compared by these, and by the rest if these are equal. -/
theorem append_lt_append_iff {u v x y : List Char} (h : u.length = v.length) :
    u ++ x < v ++ y ↔ u < v ∨ u = v ∧ x < y := by
  induction u generalizing v with
  | nil =>
      obtain rfl := List.eq_nil_of_length_eq_zero h.symm
      simp
  | cons c u ih =>
      cases v with
      | nil => cases h
      | cons d v =>
          have hrest := ih (Nat.succ.inj h)
          rw [List.cons_append, List.cons_append, List.cons_lt_cons_iff, List.cons_lt_cons_iff,
            hrest, List.cons.injEq]
          tauto

theorem digitChar_lt_digitChar_iff (ha : a < 10) (hb : b < 10) :
    Nat.digitChar a < Nat.digitChar b ↔ a < b := by
  have hcodes : Nat.digitChar a < Nat.digitChar b ↔
      (Nat.digitChar a).toNat < (Nat.digitChar b).toNat := Iff.rfl
  rw [hcodes, Nat.toNat_digitChar_of_lt_ten ha, Nat.toNat_digitChar_of_lt_ten hb]
  omega

theorem padded_inj (ha : a < 10 ^ k) (hb : b < 10 ^ k) : padded k a = padded k b ↔ a = b := by
  refine ⟨fun h => ?_, fun h => by rw [h]⟩
  induction k generalizing a b with
  | zero => omega
  | succ k ih =>
      rw [Nat.pow_succ] at ha hb
      obtain ⟨hhigh, hlow⟩ := List.append_inj h (by rw [length_padded, length_padded])
      have hdigit : a % 10 = b % 10 := by
        have hcode := congrArg Char.toNat (List.singleton_inj.mp hlow)
        rw [Nat.toNat_digitChar_of_lt_ten (by omega), Nat.toNat_digitChar_of_lt_ten (by omega)]
          at hcode
        omega
      have hrest : a / 10 = b / 10 := ih (by omega) (by omega) hhigh
      omega

/-- Numbers of at most as many digits as are written stand in the order of their texts. -/
theorem padded_lt_padded_iff (ha : a < 10 ^ k) (hb : b < 10 ^ k) :
    padded k a < padded k b ↔ a < b := by
  induction k generalizing a b with
  | zero =>
      have hnone : ¬ padded 0 a < padded 0 b := List.not_lt_nil _
      refine iff_of_false hnone ?_
      omega
  | succ k ih =>
      rw [Nat.pow_succ] at ha hb
      have ha' : a / 10 < 10 ^ k := by omega
      have hb' : b / 10 < 10 ^ k := by omega
      have hlow : [Nat.digitChar (a % 10)] < [Nat.digitChar (b % 10)] ↔ a % 10 < b % 10 := by
        rw [List.cons_lt_cons_iff, digitChar_lt_digitChar_iff (by omega) (by omega)]
        simp
      rw [padded, padded, append_lt_append_iff (by rw [length_padded, length_padded]), ih ha' hb',
        padded_inj ha' hb', hlow]
      omega

/-- Dates stand in the order of their written forms. -/
theorem Date.IsWritable.written_lt_written_iff {d e : Date} (hd : d.IsWritable)
    (he : e.IsWritable) : d.written < e.written ↔ d.before e = true := by
  have hmonth : padded 2 d.month ++ '-' :: padded 2 d.day < padded 2 e.month ++ '-' :: padded 2 e.day ↔
      d.month < e.month ∨ d.month = e.month ∧ d.day < e.day := by
    rw [append_lt_append_iff (by rw [length_padded, length_padded]), List.cons_lt_cons_self,
      padded_lt_padded_iff hd.month_lt he.month_lt, padded_inj hd.month_lt he.month_lt,
      padded_lt_padded_iff hd.day_lt he.day_lt]
  rw [Date.written, Date.written, append_lt_append_iff (by rw [length_padded, length_padded]),
    List.cons_lt_cons_self, padded_lt_padded_iff hd.year_lt he.year_lt,
    padded_inj hd.year_lt he.year_lt, hmonth]
  simp [Date.before]

end Order

section Digits

variable {c : Char} {n : Nat}

theorem isAsciiDigit_iff : isAsciiDigit c = true ↔ 48 ≤ c.toNat ∧ c.toNat ≤ 57 := by
  rw [isAsciiDigit, Bool.and_eq_true, decide_eq_true_iff, decide_eq_true_iff]
  exact Iff.rfl

theorem digitValue_eq (c : Char) : digitValue c = c.toNat - 48 := rfl

theorem digitValue_digitChar (h : n < 10) : digitValue (Nat.digitChar n) = n := by
  rw [digitValue_eq, Nat.toNat_digitChar_of_lt_ten h]
  omega

theorem isAsciiDigit_digitChar (h : n < 10) : isAsciiDigit (Nat.digitChar n) = true := by
  rw [isAsciiDigit_iff, Nat.toNat_digitChar_of_lt_ten h]
  omega

theorem digitValue_lt (h : isAsciiDigit c = true) : digitValue c < 10 := by
  rw [isAsciiDigit_iff] at h
  rw [digitValue_eq]
  omega

theorem digitChar_digitValue (h : isAsciiDigit c = true) : Nat.digitChar (digitValue c) = c := by
  apply Char.toNat_inj.mp
  rw [Nat.toNat_digitChar_of_lt_ten (digitValue_lt h), digitValue_eq]
  rw [isAsciiDigit_iff] at h
  omega

/-- A number with one more digit is written with that digit at the end. -/
theorem padded_concat (h : isAsciiDigit c = true) (k n : Nat) :
    padded (k + 1) (n * 10 + digitValue c) = padded k n ++ [c] := by
  have hlt := digitValue_lt h
  have hhigh : (n * 10 + digitValue c) / 10 = n := by omega
  have hlow : (n * 10 + digitValue c) % 10 = digitValue c := by omega
  rw [padded, hhigh, hlow, digitChar_digitValue h]

theorem padded_two {a b : Char} (ha : isAsciiDigit a = true) (hb : isAsciiDigit b = true) :
    padded 2 (digitValue a * 10 + digitValue b) = [a, b] := by
  have hfirst := padded_concat ha 0 0
  simp only [Nat.zero_mul, Nat.zero_add] at hfirst
  rw [padded_concat hb 1, hfirst]
  rfl

theorem padded_four {a b c e : Char} (ha : isAsciiDigit a = true) (hb : isAsciiDigit b = true)
    (hc : isAsciiDigit c = true) (he : isAsciiDigit e = true) :
    padded 4 (((digitValue a * 10 + digitValue b) * 10 + digitValue c) * 10 + digitValue e) =
      [a, b, c, e] := by
  rw [padded_concat he 3, padded_concat hc 2, padded_two ha hb]
  rfl

end Digits

section Reading

variable {cs : List Char} {s : String} {d : Date}

theorem Date.IsWritable.parts?_written (h : d.IsWritable) : parts? d.written = some d := by
  obtain ⟨hyear, hmonth, hday⟩ := h
  have hdigit (n : Nat) : isAsciiDigit (Nat.digitChar (n % 10)) = true :=
    isAsciiDigit_digitChar (Nat.mod_lt n (by decide))
  have hvalue (n : Nat) : digitValue (Nat.digitChar (n % 10)) = n % 10 :=
    digitValue_digitChar (Nat.mod_lt n (by decide))
  simp only [Date.written, padded, List.nil_append, List.cons_append, parts?, List.all_cons,
    List.all_nil, hdigit, Bool.and_self, if_true, hvalue, Option.some.injEq]
  congr 1
  · omega
  · omega
  · omega

theorem written_of_parts? (h : parts? cs = some d) : d.IsWritable ∧ cs = d.written := by
  rw [parts?.eq_def] at h
  split at h
  · next y1 y2 y3 y4 m1 m2 d1 d2 =>
      split at h
      · next hdigits =>
          obtain rfl := Option.some.inj h
          simp only [List.all_cons, List.all_nil, Bool.and_true, Bool.and_eq_true] at hdigits
          obtain ⟨hy1, hy2, hy3, hy4, hm1, hm2, hd1, hd2⟩ := hdigits
          have hlt {c : Char} (hc : isAsciiDigit c = true) : digitValue c < 10 := digitValue_lt hc
          have := hlt hy1; have := hlt hy2; have := hlt hy3; have := hlt hy4
          have := hlt hm1; have := hlt hm2; have := hlt hd1; have := hlt hd2
          refine ⟨⟨?_, ?_, ?_⟩, ?_⟩
          · dsimp only
            omega
          · dsimp only
            omega
          · dsimp only
            omega
          · rw [Date.written, padded_four hy1 hy2 hy3 hy4, padded_two hm1 hm2, padded_two hd1 hd2]
            rfl
      · cases h
  · cases h

/-- A text is read as the date of which it is the written form. -/
theorem parts?_eq_some_iff : parts? cs = some d ↔ d.IsWritable ∧ cs = d.written := by
  constructor
  · exact written_of_parts?
  · rintro ⟨hd, rfl⟩
    exact hd.parts?_written

theorem hasDateForm_iff : hasDateForm s = true ↔ HasDatePattern s := by
  have hpattern : "dddd-dd-dd".toList = ['d', 'd', 'd', 'd', '-', 'd', 'd', '-', 'd', 'd'] := rfl
  rw [hasDateForm, HasDatePattern, hpattern, parts?.eq_def]
  generalize s.toList = cs
  split
  · simp [Fills]
  · next hother =>
      refine iff_of_false (by simp) ?_
      rintro (_ | ⟨-, _ | ⟨-, _ | ⟨-, _ | ⟨-, _ | ⟨hfirst, _ | ⟨-, _ | ⟨-, _ | ⟨hsecond, _ | ⟨-,
        _ | ⟨-, ⟨⟩⟩⟩⟩⟩⟩⟩⟩⟩⟩⟩)
      simp only [Fills, Char.reduceEq, if_false] at hfirst hsecond
      subst hfirst hsecond
      exact hother _ _ _ _ _ _ _ _ rfl

end Reading

section Days

variable {s : String} {d : Date} {year month : Nat}

theorem isLeapYear_iff : isLeapYear year = true ↔ HasLeapDay year := by
  simp only [isLeapYear, HasLeapDay, Bool.and_eq_true, Bool.or_eq_true, beq_iff_eq, bne_iff_ne]
  omega

/-- Only the months of the year have days. -/
theorem month_of_daysInMonth_pos (h : 1 ≤ daysInMonth year month) : 1 ≤ month ∧ month ≤ 12 := by
  simp only [daysInMonth, beq_iff_eq, List.contains_iff_mem, List.mem_cons, List.not_mem_nil,
    or_false] at h
  split at h
  · omega
  · split at h
    · omega
    · split at h
      · assumption
      · omega

theorem getElem?_monthLengths (hpos : 1 ≤ month) (hle : month ≤ 12) (year : Nat) :
    (monthLengths year)[month - 1]? = some (daysInMonth year month) := by
  simp only [daysInMonth, isLeapYear_iff]
  interval_cases month <;> rfl

theorem Date.IsGregorian.month_le (h : d.IsGregorian) : d.month ≤ 12 := by
  obtain ⟨length, hlength, -⟩ := h.day_le
  have hshort := (List.getElem?_eq_some_iff.mp hlength).1
  have hcount : (monthLengths d.year).length = 12 := rfl
  omega

theorem Date.IsGregorian.isWritable (h : d.IsGregorian) : d.IsWritable := by
  have hmonths : ∀ length ∈ monthLengths d.year, length ≤ 31 := by
    simp only [monthLengths, List.forall_mem_cons]
    refine ⟨by decide, ?_, by decide⟩
    split <;> decide
  obtain ⟨length, hlength, hle⟩ := h.day_le
  have hlong := hmonths length (List.mem_of_getElem? hlength)
  have hmonth := h.month_le
  constructor
  · exact Nat.lt_succ_of_le h.year_le
  · omega
  · omega

theorem isDay_iff (h : d.IsWritable) : d.isDay = true ↔ d.IsGregorian := by
  simp only [Date.isDay, Bool.and_eq_true, decide_eq_true_iff]
  constructor
  · rintro ⟨⟨hyear, hday⟩, hle⟩
    obtain ⟨hpos, hmonth⟩ := month_of_daysInMonth_pos (Nat.le_trans hday hle)
    exact
      { year_pos := hyear
        year_le := Nat.le_of_lt_succ h.year_lt
        month_pos := hpos
        day_pos := hday
        day_le := ⟨_, getElem?_monthLengths hpos hmonth d.year, hle⟩ }
  · intro hd
    obtain ⟨length, hlength, hle⟩ := hd.day_le
    rw [getElem?_monthLengths hd.month_pos hd.month_le, Option.some.injEq] at hlength
    exact ⟨⟨hd.year_pos, hd.day_pos⟩, hlength ▸ hle⟩

/-- The day that a text names is the one of which it is the written form. -/
theorem date?_eq_some_iff : date? s = some d ↔ d.IsGregorian ∧ s.toList = d.written := by
  rw [date?, Option.filter_eq_some_iff, parts?_eq_some_iff]
  constructor
  · rintro ⟨⟨hwritable, hs⟩, hday⟩
    exact ⟨(isDay_iff hwritable).mp hday, hs⟩
  · rintro ⟨hd, hs⟩
    exact ⟨⟨hd.isWritable, hs⟩, (isDay_iff hd.isWritable).mpr hd⟩

theorem namesDay_iff : NamesDay s ↔ ∃ d, date? s = some d := by
  simp only [NamesDay, date?_eq_some_iff]

instance : DecidablePred NamesDay :=
  fun s => decidable_of_iff ((date? s).isSome = true) (by
    rw [Option.isSome_iff_exists, namesDay_iff])

/-- A full century has a leap day if 400 divides it. -/
example : NamesDay "2000-02-29" ∧ ¬ NamesDay "1900-02-29" ∧ ¬ NamesDay "0000-01-01" := by decide

end Days

end MarkerLint.Calendar
