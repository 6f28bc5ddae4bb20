import MarkerLint.Proofs.JsonDocuments
import MarkerLint.Text.Escapes

/-!
# Characters of documents in JSON

The text of a document holds only line feeds and the visible characters of ASCII with the blank:
every other character of a text is written as an escape. So nothing in it starts an escape of a
terminal.
-/

namespace MarkerLint.Json

open Binary64 Shortest

section Characters

variable {s t : String} {parts : List String} {opening closing separator : String} {level : Nat}

/-- A visible character of ASCII, a blank or a line feed. -/
def isPrinted (c : Char) : Bool :=
  c == '\n' || (decide (32 ≤ c.toNat) && decide (c.toNat < 127))

/-- The text holds only such characters. -/
def IsPrinted (s : String) : Prop :=
  ∀ c ∈ s.toList, isPrinted c = true

instance (s : String) : Decidable (IsPrinted s) :=
  decidable_of_iff (s.toList.all isPrinted = true) List.all_eq_true

/-- Nothing is dropped from such a text where there is no terminal. -/
theorem IsPrinted.dropEscapes_eq (h : IsPrinted s) : Text.dropEscapes s = s :=
  Text.dropEscapes_of_notMem fun hmark => absurd (h _ hmark) (by decide)

theorem IsPrinted.append (hs : IsPrinted s) (ht : IsPrinted t) : IsPrinted (s ++ t) := by
  intro c hc
  rw [String.toList_append, List.mem_append] at hc
  rcases hc with hc | hc
  · exact hs c hc
  · exact ht c hc

theorem IsPrinted.intercalate (hseparator : IsPrinted separator)
    (hparts : ∀ part ∈ parts, IsPrinted part) : IsPrinted (separator.intercalate parts) := by
  induction parts with
  | nil => exact fun c hc => by simp at hc
  | cons part others ih =>
      obtain ⟨hpart, hothers⟩ := List.forall_mem_cons.mp hparts
      cases others with
      | nil =>
          rw [String.intercalate_singleton]
          exact hpart
      | cons next others =>
          rw [String.intercalate_cons_cons]
          exact (hpart.append hseparator).append (ih hothers)

theorem isPrinted_digit {c : Char} (hc : Text.isAsciiDigit c = true) : isPrinted c = true := by
  simp only [Text.isAsciiDigit, Bool.and_eq_true, decide_eq_true_eq] at hc
  have hlow : 48 ≤ c.toNat := hc.1
  have hhigh : c.toNat ≤ 57 := hc.2
  rw [isPrinted, decide_eq_true (by omega), decide_eq_true (by omega), Bool.and_true, Bool.or_true]

theorem isPrinted_unitEscape (n : Nat) : (unitEscape n).all isPrinted = true := by
  have hdigits : ∀ k < 16, isPrinted k.digitChar = true := by decide
  have hdigit (n : Nat) : isPrinted (Text.Quoted.hexDigit n) = true :=
    hdigits (n % 16) (Nat.mod_lt n (by decide))
  rw [unitEscape, hex_four]
  simp only [List.all_cons, hdigit, Bool.true_and]
  decide

/-- A character inside quotation marks is written in ASCII. -/
theorem isPrinted_escapedChar (c : Char) : (escapedChar c).all isPrinted = true := by
  rw [escapedChar]
  split_ifs with hmark hslash hfeed hreturn htab hback hform hvisible hsmall
  · decide
  · decide
  · decide
  · decide
  · decide
  · decide
  · decide
  · rw [List.all_cons, List.all_nil, Bool.and_true, isPrinted, decide_eq_true hvisible.1,
      decide_eq_true hvisible.2, Bool.and_true, Bool.or_true]
  · exact isPrinted_unitEscape c.toNat
  · rw [List.all_append, isPrinted_unitEscape, isPrinted_unitEscape, Bool.and_true]

theorem isPrinted_escaped (p : CodePoint) : (escaped p).all isPrinted = true := by
  cases p with
  | char c => exact isPrinted_escapedChar c
  | surrogate => exact isPrinted_unitEscape _

theorem isPrinted_quoted (s : CodeText) : IsPrinted (quoted s) := by
  intro c hc
  rw [quoted, String.toList_ofList, List.cons_append, List.mem_cons, List.mem_append,
    List.mem_singleton, List.mem_flatMap] at hc
  rcases hc with rfl | ⟨d, -, hc⟩ | rfl
  · decide
  · exact List.all_eq_true.mp (isPrinted_escaped d) c hc
  · decide

theorem isPrinted_integer (i : Int) : IsPrinted (Decimal.text i) := by
  intro c hc
  rcases Decimal.mem_text hc with rfl | hdigit
  · decide
  · exact isPrinted_digit hdigit

theorem isPrinted_lineStart (level : Nat) : IsPrinted (lineStart level) := by
  intro c hc
  rw [lineStart, String.toList_append, List.mem_append] at hc
  rcases hc with hc | hc
  · obtain rfl := List.mem_singleton.mp hc
    decide
  · rw [String.toList_ofList] at hc
    obtain rfl := List.eq_of_mem_replicate hc
    decide

theorem isPrinted_enclosed (hopening : IsPrinted opening) (hclosing : IsPrinted closing)
    (hparts : ∀ part ∈ parts, IsPrinted part) :
    IsPrinted (enclosed level opening closing parts) := by
  have hcomma : IsPrinted "," := by decide
  have hseparated := (hcomma.append (isPrinted_lineStart (level + 1))).intercalate hparts
  rw [enclosed]
  split
  · exact hopening.append hclosing
  · exact (((hopening.append (isPrinted_lineStart _)).append hseparated).append
      (isPrinted_lineStart level)).append hclosing

/-- Parts of a number are written with signs, digits, a point and the letter of an exponent. -/
theorem isPrinted_float {x : Binary64} (hx : x.IsNormal) : IsPrinted (floatText x) := by
  cases x with
  | infinite negative => cases negative <;> decide
  | nan =>
      decide
  | finite negative m e =>
      obtain ⟨whole, places, exponent, htext, hwhole, hplaces, -⟩ := exists_floatText hx negative
      rw [IsPrinted, htext]
      have hsign : ∀ c ∈ signText negative, isPrinted c = true := by
        rw [← List.all_eq_true]
        cases negative <;> decide
      have hpoint : ∀ c ∈ placesText places, isPrinted c = true := by
        rw [placesText]
        split
        · exact List.forall_mem_nil _
        · exact List.forall_mem_cons.mpr ⟨by decide, fun c hc => isPrinted_digit (hplaces c hc)⟩
      have hexponent : ∀ c ∈ exponentPart exponent, isPrinted c = true := by
        cases exponent with
        | none => exact List.forall_mem_nil _
        | some e =>
            obtain ⟨ds, htext, hdigits, -, -⟩ := exists_exponentText e
            rw [exponentPart, htext]
            refine List.forall_mem_cons.mpr ⟨by decide, List.forall_mem_cons.mpr ⟨?_, ?_⟩⟩
            · split <;> decide
            · exact fun c hc => isPrinted_digit (hdigits c hc)
      exact List.forall_mem_append.mpr ⟨hsign, List.forall_mem_append.mpr
        ⟨fun c hc => isPrinted_digit (hwhole.digits c hc),
          List.forall_mem_append.mpr ⟨hpoint, hexponent⟩⟩⟩

end Characters

section Documents

variable {j : Json} {level : Nat} {text : String}

/-- The text of a document is printed: one case for every kind of value. -/
theorem IsTidy.isPrinted_textAt (h : IsTidy j) :
    ∀ level text, textAt level j = .ok text → IsPrinted text := by
  induction h with
  | null =>
      rintro level _ ⟨⟩
      decide
  | boolean b =>
      rintro level _ ⟨⟩
      cases b <;> decide
  | text s =>
      rintro level _ ⟨⟩
      exact isPrinted_quoted s
  | integer i =>
      intro level text h
      rw [(Decimal.text?_eq_ok_iff.mp h).2]
      exact isPrinted_integer i
  | float hx =>
      rintro level _ ⟨⟩
      exact isPrinted_float hx
  | list _ ih =>
      intro level text h
      rw [textAt] at h
      obtain ⟨parts, hparts, htext⟩ := bind_eq_ok_iff.mp h
      cases htext
      refine isPrinted_enclosed (by decide) (by decide) fun part hpart => ?_
      obtain ⟨j, hj, htext⟩ := exists_of_mem_forall₂ (forall₂_itemTexts hparts) hpart
      exact ih j hj (level + 1) part htext
  | object _ _ ih =>
      intro level text h
      rw [textAt] at h
      obtain ⟨parts, hparts, htext⟩ := bind_eq_ok_iff.mp h
      cases htext
      refine isPrinted_enclosed (by decide) (by decide) fun part hpart => ?_
      obtain ⟨e, he, text, htext, rfl⟩ := exists_of_mem_forall₂ (forall₂_memberTexts hparts) hpart
      exact ((isPrinted_quoted e.1).append (by decide)).append (ih e he (level + 1) text htext)

end Documents

end MarkerLint.Json
