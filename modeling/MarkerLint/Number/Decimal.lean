import MarkerLint.Fault
import MarkerLint.Text.Blank
import MarkerLint.Text.Quoted

/-!
# Integers in decimal

Writing an integer, which is refused beyond the digit limit, and reading one from a text.
-/

namespace MarkerLint.Decimal

/-- The integer in decimal, however long. -/
def text (i : Int) : String :=
  if i < 0 then "-" ++ Nat.repr i.natAbs else Nat.repr i.natAbs

/-- A natural number is written with digits only. -/
theorem toList_text_of_nonneg {i : Int} (h : 0 ≤ i) :
    (text i).toList = Nat.toDigits 10 i.natAbs := by
  rw [text, if_neg (Int.not_lt.mpr h), Nat.toList_repr]

theorem toList_text_of_neg {i : Int} (h : i < 0) :
    (text i).toList = '-' :: Nat.toDigits 10 i.natAbs := by
  rw [text, if_pos h, String.toList_append, Nat.toList_repr]
  rfl

theorem isAsciiDigit_of_mem_toDigits {n : Nat} {c : Char} (h : c ∈ Nat.toDigits 10 n) :
    Text.isAsciiDigit c = true := by
  simpa [Char.isDigit, Text.isAsciiDigit, Char.le_def] using
    Nat.isDigit_of_mem_toDigits (by decide) (by decide) h

/-- An integer is written with digits after a sign. -/
theorem mem_text {i : Int} {c : Char} (h : c ∈ (text i).toList) :
    c = '-' ∨ Text.isAsciiDigit c = true := by
  rcases Int.lt_or_le i 0 with hi | hi
  · rw [toList_text_of_neg hi] at h
    exact (List.mem_cons.mp h).imp_right isAsciiDigit_of_mem_toDigits
  · rw [toList_text_of_nonneg hi] at h
    exact .inr (isAsciiDigit_of_mem_toDigits h)

theorem notMem_text {c : Char} (hsign : c ≠ '-') (hdigit : Text.isAsciiDigit c = false) (i : Int) :
    c ∉ (text i).toList := by
  intro hc
  rcases mem_text hc with h | h
  · exact hsign h
  · rw [hdigit] at h
    cases h

/-- The integer in decimal, refused if it has more digits than the limit. -/
def text? (i : Int) : Except Fault String :=
  let digits := Nat.repr i.natAbs
  if digits.length > digitLimit then .error .tooManyDigits
  else .ok (if i < 0 then "-" ++ digits else digits)

/-- The number whose digits in the given base are listed, after the digits read so far. -/
def ofDigitsFrom (base : Nat) (acc : Nat) (digits : List Nat) : Nat :=
  digits.foldl (fun n d => n * base + d) acc

/-- The number whose digits in the given base are listed, the first one the highest. -/
def ofDigits (base : Nat) (digits : List Nat) : Nat :=
  ofDigitsFrom base 0 digits

/-- The values of digits that may be joined by single low lines. -/
def digitsOf? : List Char → Option (List Nat)
  | [] => none
  | [c] => (Text.decimalValue? c).map ([·])
  | c :: '_' :: rest => do
      let d ← Text.decimalValue? c
      (d :: ·) <$> digitsOf? rest
  | c :: rest => do
      let d ← Text.decimalValue? c
      (d :: ·) <$> digitsOf? rest

/-- A text as a refusal shows it: at most two hundred characters of its quoted form. -/
def shown (s : String) : String :=
  String.ofList ((Text.Quoted.encode .visible s).take 200)

/-- Reads an integer: blanks around it, a sign, then digits of any script. -/
def read (s : String) : Except Fault Int :=
  let cs := Text.trimOf Text.isBlank s.toList
  let (negative, digits) := match cs with
    | '-' :: rest => (true, rest)
    | '+' :: rest => (false, rest)
    | rest => (false, rest)
  match digitsOf? digits with
  | none => .error (.notAnInteger (shown s))
  | some ds =>
      if ds.length > digitLimit then .error (.tooManyDigitsToRead ds.length)
      else
        let n : Int := ofDigits 10 ds
        .ok (if negative then -n else n)

end MarkerLint.Decimal
