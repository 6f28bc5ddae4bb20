import MarkerLint.Proofs.ContradictionKeys
import MarkerLint.Text.Case

/-!
# Blanks in lower case

A text in lower case is blank exactly if the text is: blanks have no case, and no letter has a blank
for its lower case.
-/

namespace MarkerLint.Text

/-- The blanks as inclusive ranges of code points. -/
def blankRanges : List (Nat × Nat) :=
  [(9, 13), (28, 32), (0x85, 0x85), (0xA0, 0xA0), (0x1680, 0x1680), (0x2000, 0x200A),
   (0x2028, 0x2029), (0x202F, 0x202F), (0x205F, 0x205F), (0x3000, 0x3000)]

theorem isBlank_iff {c : Char} :
    isBlank c = true ↔ ∃ r ∈ blankRanges, r.1 ≤ c.toNat ∧ c.toNat ≤ r.2 := by
  simp [isBlank, blankRanges]
  omega

/-- Neither the letters of the run nor their images lie in the range. -/
def CaseRun.isClearOf (run : CaseRun) (r : Nat × Nat) : Bool :=
  (decide (run.last < r.1) || decide (r.2 < run.first)) &&
    (decide ((run.last : Int) + run.shift < r.1) || decide ((r.2 : Int) < run.first + run.shift))

theorem isClearOf_lowerRuns :
    (lowerRuns.all fun run => blankRanges.all run.isClearOf) = true := by
  decide +kernel

section Letters

variable {c : Char} {n : Nat}

/-- A number that is no code point is read as zero. -/
theorem toNat_ofNat_eq_or (n : Nat) : (Char.ofNat n).toNat = n ∨ (Char.ofNat n).toNat = 0 := by
  by_cases h : n.isValidChar
  · exact .inl (by rw [Char.ofNat, dif_pos h]; rfl)
  · exact .inr (by rw [Char.ofNat, dif_neg h]; rfl)

theorem isBlank_toLower (c : Char) : isBlank c.toLower = isBlank c := by
  rw [Bool.eq_iff_iff, isBlank_iff, isBlank_iff, Contradiction.toNat_toLower]
  split
  · simp [blankRanges]
    omega
  · rfl

theorem not_isBlank_of_toNat_eq_zero (h : c.toNat = 0) : isBlank c = false := by
  simp [isBlank, h]

/-- A letter of the runs is no blank, nor is its lower case. -/
theorem isBlank_of_map? (h : CaseRun.map? lowerRuns c.toNat = some n) :
    isBlank c = false ∧ isBlank (Char.ofNat n) = false := by
  obtain ⟨run, hrun, rfl⟩ := Option.map_eq_some_iff.mp h
  have hletter := List.find?_some hrun
  simp only [Bool.and_eq_true, decide_eq_true_iff] at hletter
  have hapart (r : Nat × Nat) (hr : r ∈ blankRanges) : (run.last < r.1 ∨ r.2 < run.first) ∧
      ((run.last : Int) + run.shift < r.1 ∨ (r.2 : Int) < run.first + run.shift) := by
    have hclear := List.all_eq_true.mp isClearOf_lowerRuns run (List.mem_of_find?_eq_some hrun)
    simpa [CaseRun.isClearOf] using List.all_eq_true.mp hclear r hr
  constructor
  · rw [Bool.eq_false_iff, Ne, isBlank_iff]
    rintro ⟨r, hr, hlow, hhigh⟩
    have := hapart r hr
    omega
  · rcases toNat_ofNat_eq_or ((c.toNat : Int) + run.shift).toNat with hcode | hzero
    · rw [Bool.eq_false_iff, Ne, isBlank_iff, hcode]
      rintro ⟨r, hr, hlow, hhigh⟩
      have := hapart r hr
      have hpos : ∀ r ∈ blankRanges, 0 < r.1 := by decide
      have := hpos r hr
      omega
    · exact not_isBlank_of_toNat_eq_zero hzero

theorem isBlank_of_sequence? {ds : List Char} (h : sequence? lowerSequences c.toNat = some ds) :
    isBlank c = false ∧ ∃ d ∈ ds, isBlank d = false := by
  obtain ⟨codes, hcodes, rfl⟩ := Option.map_eq_some_iff.mp h
  obtain ⟨before, after, hsplit, -⟩ := List.lookup_eq_some_iff.mp hcodes
  have hmem : (c.toNat, codes) ∈ lowerSequences := by simp [hsplit]
  obtain ⟨hc, rfl⟩ := Prod.mk.inj (List.mem_singleton.mp hmem)
  exact ⟨by simp [isBlank, hc], Char.ofNat 0x69, by simp, by decide⟩

theorem blank_lowerChar_iff (c : Char) :
    (∀ d ∈ lowerChar c, isBlank d = true) ↔ isBlank c = true := by
  rw [lowerChar]
  split
  · rw [List.forall_mem_singleton, isBlank_toLower]
  · split
    · next ds hds =>
        obtain ⟨hc, d, hd, hsolid⟩ := isBlank_of_sequence? hds
        refine iff_of_false (fun hall => ?_) (by simp [hc])
        cases hsolid.symm.trans (hall d hd)
    · split
      · next n hn =>
          obtain ⟨hc, hsolid⟩ := isBlank_of_map? hn
          simp [hc, hsolid]
      · rw [List.forall_mem_singleton]

theorem blank_lowerBetween_iff (before : CodeText) (c : Char) (after : CodeText) :
    (∀ d ∈ lowerBetween before c after, isBlank d = true) ↔ isBlank c = true := by
  rw [lowerBetween]
  split
  · next hsigma =>
      obtain rfl : c = capitalSigma := by simpa using hsigma
      split
      · rw [List.forall_mem_singleton]
        rfl
      · rw [List.forall_mem_singleton]
        rfl
  · exact blank_lowerChar_iff c

theorem blank_lowerPoint_iff (before : CodeText) (p : CodePoint) (after : CodeText) :
    (∀ d ∈ lowerPoint before p after, isBlankPoint d = true) ↔ isBlankPoint p = true := by
  cases p with
  | char c => exact List.forall_mem_map.trans (blank_lowerBetween_iff before c after)
  | surrogate => exact List.forall_mem_singleton

end Letters

theorem blank_lowerFrom_iff (before cs : CodeText) :
    (∀ d ∈ lowerFrom before cs, isBlankPoint d = true) ↔ ∀ c ∈ cs, isBlankPoint c = true := by
  induction cs generalizing before with
  | nil => simp [lowerFrom]
  | cons c rest ih =>
      rw [lowerFrom, List.forall_mem_append, blank_lowerPoint_iff, ih, List.forall_mem_cons]

/-- Lower case keeps blanks and makes none. -/
theorem blank_lower_iff {cs : CodeText} :
    (∀ c ∈ lower cs, isBlankPoint c = true) ↔ ∀ c ∈ cs, isBlankPoint c = true :=
  blank_lowerFrom_iff [] cs

end MarkerLint.Text
