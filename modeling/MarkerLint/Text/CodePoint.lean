/-!
# Code points

The texts of constants are made of code points. Almost all of them are characters; the others are
the surrogates, which stand for no character by themselves. A constant may hold them, a file cannot.
-/

namespace MarkerLint

/-- A code point: a character, or one of the 2048 surrogates. -/
inductive CodePoint where
  | char (c : Char)
  | surrogate (offset : Fin 0x800)
deriving DecidableEq, Repr, Inhabited

namespace CodePoint

instance : Coe Char CodePoint := ⟨char⟩

/-- The number of the first surrogate. -/
def firstSurrogate : Nat := 0xD800

/-- The number of a code point. -/
def toNat : CodePoint → Nat
  | .char c => c.toNat
  | .surrogate offset => firstSurrogate + offset

/-- The code point of a number; a number that has none is read as zero. -/
def ofNat (n : Nat) : CodePoint :=
  if h : firstSurrogate ≤ n ∧ n - firstSurrogate < 0x800 then .surrogate ⟨n - firstSurrogate, h.2⟩
  else .char (Char.ofNat n)

/-- The code point is a character of that class. -/
def isIn (p : Char → Bool) : CodePoint → Bool
  | .char c => p c
  | .surrogate _ => false

@[simp] theorem isIn_char (p : Char → Bool) (c : Char) : (CodePoint.char c).isIn p = p c := rfl

theorem isIn_eq_true_iff {p : Char → Bool} {x : CodePoint} :
    x.isIn p = true ↔ ∃ c, x = .char c ∧ p c = true := by
  cases x <;> simp [isIn]

end CodePoint

/-- A text of code points. -/
abbrev CodeText := List CodePoint

namespace CodeText

/-- A text of characters. -/
def ofString (s : String) : CodeText :=
  s.toList.map .char

instance : Coe String CodeText := ⟨ofString⟩

/-- The characters of a text, if it holds no surrogate. -/
def chars? : CodeText → Option (List Char)
  | [] => some []
  | .char c :: rest => (c :: ·) <$> chars? rest
  | .surrogate _ :: _ => none

/-- The string that a text is, if it holds no surrogate. -/
def string? (t : CodeText) : Option String :=
  String.ofList <$> t.chars?

@[simp] theorem ofString_ofList (cs : List Char) : ofString (String.ofList cs) = cs.map .char := by
  rw [ofString, String.toList_ofList]

@[simp] theorem isEmpty_ofString (s : String) : (ofString s).isEmpty = s.isEmpty := by
  rw [Bool.eq_iff_iff, String.isEmpty_iff, List.isEmpty_iff, ofString, List.map_eq_nil_iff,
    String.toList_eq_nil_iff]

theorem chars?_eq_some_iff {t : CodeText} {cs : List Char} :
    t.chars? = some cs ↔ t = cs.map .char := by
  induction t generalizing cs with
  | nil => simp [chars?, eq_comm]
  | cons p t ih =>
      cases p with
      | char c =>
          rw [chars?, Option.map_eq_map, Option.map_eq_some_iff]
          constructor
          · rintro ⟨ds, hds, rfl⟩
            rw [ih.mp hds, List.map_cons]
          · intro h
            cases cs with
            | nil => cases h
            | cons d cs =>
                obtain ⟨hd, ht⟩ := List.cons.inj h
                cases hd
                exact ⟨cs, ih.mpr ht, rfl⟩
      | surrogate => cases cs <;> simp [chars?]

/-- A text is a string exactly if it is made of the characters of that string. -/
theorem string?_eq_some_iff {t : CodeText} {s : String} : t.string? = some s ↔ t = ofString s := by
  rw [string?, Option.map_eq_map, Option.map_eq_some_iff]
  constructor
  · rintro ⟨cs, hcs, rfl⟩
    rw [ofString_ofList]
    exact chars?_eq_some_iff.mp hcs
  · intro h
    exact ⟨s.toList, chars?_eq_some_iff.mpr h, String.ofList_toList⟩

@[simp] theorem string?_ofString (s : String) : (ofString s).string? = some s :=
  string?_eq_some_iff.mpr rfl

@[simp] theorem ofString_inj {s t : String} : ofString s = ofString t ↔ s = t := by
  rw [← string?_eq_some_iff, string?_ofString, Option.some.injEq]

end CodeText

end MarkerLint
