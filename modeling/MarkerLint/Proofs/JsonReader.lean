import Mathlib.Tactic.SplitIfs
import MarkerLint.Json
import MarkerLint.Number.Fraction
import MarkerLint.Proofs.SurrogatePairs
import MarkerLint.Text.Search

/-!
# Reading JSON

A reader that takes the texts that the standard allows and no others. An escape for a surrogate
stands for it unless it makes a pair with its neighbour. A number without point and exponent is an
integer, and any other number is the nearest one of the binary format. Of members with one name the
last one counts. Values nest, so the reader takes an amount of fuel; every nested value is shorter
than the one around it, and the length of the text is enough.
-/

namespace MarkerLint.Json

/-- A blank between tokens. -/
def isGap (c : Char) : Bool :=
  c == ' ' || c == '\t' || c == '\n' || c == '\r'

/-- The text without the blanks at its beginning. -/
def skipGaps (cs : List Char) : List Char :=
  cs.dropWhile isGap

/-- The character that an escape of one letter stands for. -/
def letterEscape? : Char → Option Char
  | '"' => some '"'
  | '\\' => some '\\'
  | '/' => some '/'
  | 'b' => some (Char.ofNat 8)
  | 'f' => some (Char.ofNat 12)
  | 'n' => some '\n'
  | 'r' => some '\r'
  | 't' => some '\t'
  | _ => none

/-- Code points in front of a text that has been read. -/
def prepend (t : CodeText) (read : Option (CodeText × List Char)) : Option (CodeText × List Char) :=
  read.map fun (others, rest) => (t ++ others, rest)

/-- The code points up to the closing mark, one for each escape, and the rest. -/
def unitsFrom : List Char → Option (CodeText × List Char)
  | [] => none
  | '\\' :: 'u' :: a :: b :: c :: d :: rest =>
      if [a, b, c, d].all Digits.isHex then
        prepend [.ofNat (Digits.number 16 [a, b, c, d])] (unitsFrom rest)
      else none
  | '\\' :: c :: rest =>
      match letterEscape? c with
      | some e => prepend [.char e] (unitsFrom rest)
      | none => none
  | c :: rest =>
      if c == '\\' || decide (c.toNat < 32) then none
      else if c == '"' then some ([], rest)
      else prepend [.char c] (unitsFrom rest)

/-- A text after the opening mark, and the rest. Two escapes for the surrogates of a pair stand for
one character. -/
def text? (cs : List Char) : Option (CodeText × List Char) :=
  (unitsFrom cs).map fun (t, rest) => (t.joined, rest)

/-- The digits before a point: no zero stands before others. -/
def whole? : List Char → Option (List Char × List Char)
  | '0' :: rest => some (['0'], rest)
  | cs =>
      match cs.span Text.isAsciiDigit with
      | ([], _) => none
      | (digits, rest) => some (digits, rest)

/-- The digits after a point; none without a point. -/
def places? : List Char → Option (List Char × List Char)
  | '.' :: rest =>
      match rest.span Text.isAsciiDigit with
      | ([], _) => none
      | (digits, rest) => some (digits, rest)
  | cs => some ([], cs)

/-- A sign and the rest. -/
def signOf : List Char → Bool × List Char
  | '-' :: rest => (true, rest)
  | '+' :: rest => (false, rest)
  | cs => (false, cs)

/-- The exponent, if there is one. -/
def exponent? : List Char → Option (Option Int × List Char)
  | [] => some (none, [])
  | mark :: rest =>
      if mark == 'e' || mark == 'E' then
        match (signOf rest).2.span Text.isAsciiDigit with
        | ([], _) => none
        | (digits, others) =>
            let n : Int := Digits.number 10 digits
            some (some (if (signOf rest).1 then -n else n), others)
      else some (none, mark :: rest)

/-- A floating-point number with a sign before it. -/
def withSign (negative : Bool) (x : Binary64) : Binary64 :=
  if negative then x.neg else x

/-- The number that digits, places and an exponent make. -/
def numberOf (negative : Bool) (whole places : List Char) (exponent : Option Int) : Json :=
  if places.isEmpty && exponent.isNone then
    .integer (Binary64.signed negative (Digits.number 10 whole))
  else .float (withSign negative (Fraction.mk whole places (exponent.getD 0)).value)

/-- A number after its sign. -/
def unsigned? (negative : Bool) (cs : List Char) : Option (Json × List Char) := do
  let (whole, cs) ← whole? cs
  let (places, cs) ← places? cs
  let (exponent, cs) ← exponent? cs
  some (numberOf negative whole places exponent, cs)

/-- A number. -/
def number? : List Char → Option (Json × List Char)
  | '-' :: rest => unsigned? true rest
  | cs => unsigned? false cs

/-- A value that is written as a word. -/
def word? (word : String) (j : Json) (cs : List Char) : Option (Json × List Char) :=
  (Text.after? word.toList cs).map fun rest => (j, rest)

/-- One element or more with commas between them, up to the closing bracket. -/
def elements? {α : Type} (element? : List Char → Option (α × List Char)) (closing : Char) :
    Nat → List Char → Option (List α × List Char)
  | 0, _ => none
  | count + 1, cs => do
      let (a, cs) ← element? cs
      match skipGaps cs with
      | [] => none
      | c :: rest =>
          if c = closing then some ([a], rest)
          else if c = ',' then do
            let (others, rest) ← elements? element? closing count (skipGaps rest)
            some (a :: others, rest)
          else none

/-- Any number of elements, after the opening bracket. -/
def bracketed? {α : Type} (element? : List Char → Option (α × List Char)) (closing : Char)
    (cs : List Char) : Option (List α × List Char) :=
  match skipGaps cs with
  | [] => none
  | c :: rest =>
      if c = closing then some ([], rest) else elements? element? closing cs.length (c :: rest)

/-- A name in quotation marks and a value. -/
def member? (element? : List Char → Option (Json × List Char)) :
    List Char → Option ((CodeText × Json) × List Char)
  | [] => none
  | c :: cs =>
      if c = '"' then do
        let (name, cs) ← text? cs
        match skipGaps cs with
        | ':' :: rest => do
            let (j, rest) ← element? (skipGaps rest)
            some ((name, j), rest)
        | _ => none
      else none

/-- A value. -/
def value? : Nat → List Char → Option (Json × List Char)
  | 0, _ => none
  | _ + 1, [] => none
  | fuel + 1, c :: cs =>
      if c = '"' then (text? cs).map fun (s, rest) => (.text s, rest)
      else if c = '[' then
        (bracketed? (value? fuel) ']' cs).map fun (items, rest) => (.list items, rest)
      else if c = '\x7b' then
        (bracketed? (member? (value? fuel)) '\x7d' cs).map fun (members, rest) =>
          (.object (Table.ofList members), rest)
      else if c = 't' then word? "true" (.boolean true) (c :: cs)
      else if c = 'f' then word? "false" (.boolean false) (c :: cs)
      else if c = 'n' then word? "null" .null (c :: cs)
      else number? (c :: cs)

/-- The document that a text is. -/
def read? (s : String) : Option Json :=
  match value? s.toList.length (skipGaps s.toList) with
  | some (j, rest) => if (skipGaps rest).isEmpty then some j else none
  | none => none

example : (read? " \x7b \"a\" : [ -1 , 2.50e+3, \"\\u00e9\" ] \x7d\n").isSome = true := by
  decide +kernel

example : (read? "[Infinity]").isSome = false ∧ (read? "[01]").isSome = false ∧
    (read? "[1,]").isSome = false := by
  decide +kernel

section Texts

variable {c : Char} {n : Nat} {rest : List Char}

theorem unitsFrom_plain (hc : 32 ≤ c.toNat) (hmark : c ≠ '"') (hescape : c ≠ '\\') :
    unitsFrom (c :: rest) = prepend [.char c] (unitsFrom rest) := by
  have hcontrol : ¬ c.toNat < 32 := Nat.not_lt.mpr hc
  rw [unitsFrom.eq_def]
  split
  · next heq => cases heq
  · next heq => cases heq; exact absurd rfl hescape
  · next heq => cases heq; exact absurd rfl hescape
  · next heq =>
      cases heq
      simp [hmark, hescape, hcontrol]

theorem unitsFrom_closing (rest : List Char) : unitsFrom ('"' :: rest) = some ([], rest) := by
  rw [unitsFrom.eq_def]
  rfl

theorem unitsFrom_letter {e : Char} (he : letterEscape? c = some e) (rest : List Char) :
    unitsFrom ('\\' :: c :: rest) = prepend [.char e] (unitsFrom rest) := by
  have hu : c ≠ 'u' := by
    rintro rfl
    cases he
  rw [unitsFrom.eq_def]
  split
  · next heq => cases heq
  · next heq => cases heq; exact absurd rfl hu
  · next heq =>
      cases heq
      rw [he]
  · next hne heq => cases heq; exact (hne _ _ rfl rfl).elim

/-- Four hexadecimal digits are those of the unit. -/
theorem hex_four (n : Nat) : Text.Quoted.hex 4 n = [Text.Quoted.hexDigit (n / 16 / 16 / 16),
    Text.Quoted.hexDigit (n / 16 / 16), Text.Quoted.hexDigit (n / 16), Text.Quoted.hexDigit n] :=
  rfl

theorem hexDigit_eq (n : Nat) : Digits.isHex (Text.Quoted.hexDigit n) = true ∧
    Digits.valueOf (Text.Quoted.hexDigit n) = n % 16 := by
  have hdigits : ∀ k < 16, Digits.isHex k.digitChar = true ∧ Digits.valueOf k.digitChar = k := by
    decide
  exact hdigits (n % 16) (Nat.mod_lt n (by decide))

theorem number_hex_four (hn : n < 0x10000) : Digits.number 16 (Text.Quoted.hex 4 n) = n := by
  rw [hex_four, Digits.number]
  simp only [List.map_cons, List.map_nil, (hexDigit_eq _).2, Decimal.ofDigits, Decimal.ofDigitsFrom,
    List.foldl_cons, List.foldl_nil]
  omega

/-- An escape is read as its unit. -/
theorem unitsFrom_unitEscape (hn : n < 0x10000) (rest : List Char) :
    unitsFrom (unitEscape n ++ rest) = prepend [.ofNat n] (unitsFrom rest) := by
  have hnumber := number_hex_four hn
  rw [hex_four] at hnumber
  rw [unitEscape, hex_four, List.cons_append, List.cons_append, List.cons_append, List.cons_append,
    List.cons_append, List.cons_append, List.nil_append, unitsFrom.eq_def]
  simp only [hnumber, List.all_cons, List.all_nil, (hexDigit_eq _).1, Bool.and_true, if_true]

theorem prepend_append (t u : CodeText) (read : Option (CodeText × List Char)) :
    prepend (t ++ u) read = prepend t (prepend u read) := by
  cases read <;> simp [prepend]

/-- A character inside quotation marks is read as its units. -/
theorem unitsFrom_escapedChar (c : Char) (rest : List Char) :
    unitsFrom (escapedChar c ++ rest) = prepend (CodePoint.char c).units (unitsFrom rest) := by
  have hchar := Char.ofNat_toNat c
  have hone (hc : c.toNat < 0x10000) : (CodePoint.char c).units = [.char c] := if_pos hc
  rw [escapedChar]
  split_ifs with hmark hslash hfeed hreturn htab hback hform hvisible hsmall
  · subst hmark
    exact unitsFrom_letter rfl rest
  · subst hslash
    exact unitsFrom_letter rfl rest
  · subst hfeed
    exact unitsFrom_letter rfl rest
  · subst hreturn
    exact unitsFrom_letter rfl rest
  · subst htab
    exact unitsFrom_letter rfl rest
  · rw [← hchar, hback]
    exact unitsFrom_letter rfl rest
  · rw [← hchar, hform]
    exact unitsFrom_letter rfl rest
  · rw [hone (by omega)]
    exact unitsFrom_plain hvisible.1 hmark hslash
  · rw [hone hsmall, unitsFrom_unitEscape hsmall, CodePoint.ofNat_toNat]
  · have hvalid := CodePoint.toNat_valid c
    have hunits : (CodePoint.char c).units = [CodePoint.highOf c] ++ [CodePoint.lowOf c] :=
      if_neg hsmall
    rw [hunits, prepend_append, List.append_assoc, unitsFrom_unitEscape (by omega),
      unitsFrom_unitEscape (by omega)]
    rfl

theorem unitsFrom_escaped (p : CodePoint) (rest : List Char) :
    unitsFrom (escaped p ++ rest) = prepend p.units (unitsFrom rest) := by
  cases p with
  | char c => exact unitsFrom_escapedChar c rest
  | surrogate offset =>
      have hsmall : (CodePoint.surrogate offset).toNat < 0x10000 := by
        have hlt := offset.isLt
        rw [CodePoint.toNat, CodePoint.firstSurrogate]
        omega
      rw [escaped, unitsFrom_unitEscape hsmall, CodePoint.ofNat_surrogate]
      rfl

theorem unitsFrom_flatMap_escaped (t : CodeText) (rest : List Char) :
    unitsFrom (t.flatMap escaped ++ '"' :: rest) = some (t.flatMap CodePoint.units, rest) := by
  induction t with
  | nil => exact unitsFrom_closing rest
  | cons p t ih =>
      rw [List.flatMap_cons, List.append_assoc, unitsFrom_escaped, ih]
      rfl

/-- A text inside quotation marks is read with its pairs joined. -/
theorem text?_flatMap_escaped (t : CodeText) (rest : List Char) :
    text? (t.flatMap escaped ++ '"' :: rest) = some (t.joined, rest) := by
  rw [text?, unitsFrom_flatMap_escaped, Option.map_some]
  dsimp only
  rw [CodeText.joined_flatMap_units]

end Texts

end MarkerLint.Json