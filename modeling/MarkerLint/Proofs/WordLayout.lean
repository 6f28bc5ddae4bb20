import Mathlib.Data.List.TakeWhile
import MarkerLint.Text.Blank

/-!
# The layout of words

A trimmed text is its words with a gap between neighbours. What collapsing makes of it is a function
of the words alone: the gaps become single spaces, however they were written.
-/

namespace MarkerLint.Text

/-- Some code points, none of which is blank. -/
structure IsWord (w : CodeText) : Prop where
  ne_nil : w ≠ []
  solid : ∀ c ∈ w, isBlankPoint c = false

/-- Some code points, all of which are blank. -/
structure IsGap (g : CodeText) : Prop where
  ne_nil : g ≠ []
  blank : ∀ c ∈ g, isBlankPoint c = true

/-- The text consists of the words in order, with a gap between neighbours and nothing around them. -/
inductive LaidOut : List CodeText → CodeText → Prop
  | nil : LaidOut [] []
  | single {w : CodeText} (hw : IsWord w) : LaidOut [w] w
  | cons {w g v cs : CodeText} {ws : List CodeText} (hw : IsWord w) (hg : IsGap g)
      (h : LaidOut (v :: ws) cs) : LaidOut (w :: v :: ws) (w ++ (g ++ cs))

/-- The words with a single space between neighbours. -/
def spaced (ws : List CodeText) : CodeText :=
  [CodePoint.char ' '].intercalate ws

section Words

variable {w g rest : CodeText}

theorem wordsFrom_append (unfinished : CodeText) (hw : ∀ c ∈ w, isBlankPoint c = false)
    (rest : CodeText) : wordsFrom unfinished (w ++ rest) = wordsFrom (unfinished ++ w) rest := by
  induction w generalizing unfinished with
  | nil => simp
  | cons c w ih =>
      have hc := hw c List.mem_cons_self
      rw [List.cons_append, wordsFrom, if_neg (by simp [hc]),
        ih (unfinished ++ [c]) fun d hd => hw d (List.mem_cons_of_mem _ hd)]
      simp

/-- Blanks before a text add no word. -/
theorem words_append_of_blank (hg : ∀ c ∈ g, isBlankPoint c = true) (rest : CodeText) :
    words (g ++ rest) = words rest := by
  induction g with
  | nil => rfl
  | cons c g ih =>
      have hc := hg c List.mem_cons_self
      have hrest := ih fun d hd => hg d (List.mem_cons_of_mem _ hd)
      rw [words] at hrest ⊢
      rw [List.cons_append, wordsFrom, if_pos hc, if_pos List.isEmpty_nil, hrest]

theorem IsWord.words_eq (hw : IsWord w) : words w = [w] := by
  have happend := wordsFrom_append [] hw.solid []
  rw [List.append_nil, List.nil_append] at happend
  rw [words, happend, wordsFrom, if_neg (by simp [hw.ne_nil])]

theorem IsWord.words_append (hw : IsWord w) (hg : IsGap g) (rest : CodeText) :
    words (w ++ (g ++ rest)) = w :: words rest := by
  obtain ⟨hne, hblank⟩ := hg
  cases g with
  | nil => exact absurd rfl hne
  | cons c g =>
      have hc := hblank c List.mem_cons_self
      have hrest := words_append_of_blank (fun d hd => hblank d (List.mem_cons_of_mem _ hd)) rest
      rw [words, wordsFrom_append [] hw.solid, List.nil_append, List.cons_append, wordsFrom,
        if_pos hc, if_neg (by simp [hw.ne_nil])]
      exact congrArg (w :: ·) hrest

/-- A word before a text is the beginning of its first word. -/
theorem IsWord.exists_words_append (hw : IsWord w) (rest : CodeText) :
    ∃ tail ws, words (w ++ rest) = (w ++ tail) :: ws := by
  rw [words, wordsFrom_append [] hw.solid, List.nil_append]
  induction rest generalizing w with
  | nil => exact ⟨[], [], by rw [wordsFrom, if_neg (by simp [hw.ne_nil]), List.append_nil]⟩
  | cons c rest ih =>
      rw [wordsFrom]
      split
      · rw [if_neg (by simp [hw.ne_nil])]
        exact ⟨[], wordsFrom [] rest, by rw [List.append_nil]⟩
      · next hc =>
          have hlonger : IsWord (w ++ [c]) := by
            refine ⟨by simp, fun d hd => ?_⟩
            rcases List.mem_append.mp hd with hd | hd
            · exact hw.solid d hd
            · rw [List.mem_singleton.mp hd]
              exact Bool.eq_false_iff.mpr hc
          obtain ⟨tail, ws, hws⟩ := ih hlonger
          exact ⟨c :: tail, ws, by rw [hws, List.append_assoc, List.singleton_append]⟩

end Words

section Trimming

variable {cs ds : CodeText}

/-- Blanks at the end are taken off a text that ends after a word. -/
theorem IsWord.trimEnd_append {w g : CodeText} (hw : IsWord w)
    (hg : ∀ c ∈ g, isBlankPoint c = true) : trimEnd (w ++ g) = w := by
  have hgap : ∀ c ∈ g.reverse, isBlankPoint c = true := by simpa using hg
  have hword : w.reverse.dropWhile isBlankPoint = w.reverse := by
    cases hr : w.reverse with
    | nil => rfl
    | cons c rest =>
        have hc := hw.solid c (List.mem_reverse.mp (hr ▸ List.mem_cons_self))
        rw [List.dropWhile_cons, if_neg (by simp [hc])]
  rw [trimEnd, trimEndOf, List.reverse_append, List.dropWhile_append_of_pos hgap, hword,
    List.reverse_reverse]

/-- What stands before a text that is not blank stays when its end is trimmed. -/
theorem trimEnd_append (h : trimEnd ds ≠ []) : trimEnd (cs ++ ds) = cs ++ trimEnd ds := by
  have hds : (ds.reverse.dropWhile isBlankPoint).isEmpty = false := by
    simpa [trimEnd, trimEndOf] using h
  rw [trimEnd, trimEndOf, List.reverse_append, List.dropWhile_append, if_neg (by simp [hds]),
    List.reverse_append, List.reverse_reverse, trimEnd, trimEndOf]

end Trimming

/-- A text that does not begin with a blank is a word, the blanks after it, and a text that again
does not begin with one. -/
theorem exists_cut {c : CodePoint} (hc : isBlankPoint c = false) (cs : CodeText) :
    ∃ w g rest, c :: cs = w ++ (g ++ rest) ∧ IsWord w ∧ (∀ d ∈ g, isBlankPoint d = true) ∧
      (∀ d, rest.head? = some d → isBlankPoint d = false) ∧ (g = [] → rest = []) := by
  refine ⟨c :: cs.takeWhile (!isBlankPoint ·),
    (cs.dropWhile (!isBlankPoint ·)).takeWhile isBlankPoint,
    (cs.dropWhile (!isBlankPoint ·)).dropWhile isBlankPoint, ?_, ⟨List.cons_ne_nil _ _, ?_⟩, ?_,
    ?_, ?_⟩
  · rw [List.takeWhile_append_dropWhile, List.cons_append, List.takeWhile_append_dropWhile]
  · intro d hd
    rcases List.mem_cons.mp hd with rfl | hd
    · exact hc
    · simpa using List.mem_takeWhile_imp hd
  · intro d hd
    exact List.mem_takeWhile_imp hd
  · intro d hd
    have hfirst := List.head?_dropWhile_not isBlankPoint (cs.dropWhile (!isBlankPoint ·))
    rw [hd] at hfirst
    exact hfirst
  · intro hg
    have hfirst := List.head?_dropWhile_not (!isBlankPoint ·) cs
    cases hrest : cs.dropWhile (!isBlankPoint ·) with
    | nil => rfl
    | cons d rest =>
        rw [hrest] at hfirst hg
        rw [List.takeWhile_cons, if_pos (by simpa using hfirst)] at hg
        cases hg

/-- A text is laid out in one way: in its words. -/
theorem LaidOut.words_eq {ws : List CodeText} {cs : CodeText} (h : LaidOut ws cs) :
    words cs = ws := by
  induction h with
  | nil => rfl
  | single hw => exact hw.words_eq
  | cons hw hg _ ih => rw [hw.words_append hg, ih]

theorem LaidOut.isWord {w cs : CodeText} {ws : List CodeText} (h : LaidOut (w :: ws) cs) :
    IsWord w := by
  cases h with
  | single hw => exact hw
  | cons hw => exact hw

theorem LaidOut.ne_nil {w cs : CodeText} {ws : List CodeText} (h : LaidOut (w :: ws) cs) :
    cs ≠ [] := by
  cases h with
  | single hw => exact hw.ne_nil
  | cons hw => exact List.append_ne_nil_of_left_ne_nil hw.ne_nil _

/-- Trimmed at its end, a text that does not begin with a blank is laid out in its words. The
recursion is on the text after the first word and the gap there. -/
theorem exists_laidOut_trimEnd {c : CodePoint} (hc : isBlankPoint c = false) (cs : CodeText) :
    ∃ w ws, words (c :: cs) = w :: ws ∧ LaidOut (w :: ws) (trimEnd (c :: cs)) := by
  obtain ⟨w, g, rest, hcut, hw, hg, hrest, hend⟩ := exists_cut hc cs
  rw [hcut]
  cases rest with
  | nil =>
      refine ⟨w, [], ?_, ?_⟩
      · cases g with
        | nil => rw [List.append_nil, List.append_nil, hw.words_eq]
        | cons b g => rw [hw.words_append ⟨List.cons_ne_nil b g, hg⟩]; rfl
      · rw [List.append_nil, hw.trimEnd_append hg]
        exact .single hw
  | cons d rest =>
      have hshort : rest.length < cs.length := by
        have hpos := List.length_pos_iff.mpr hw.ne_nil
        have hlength := congrArg List.length hcut
        simp only [List.length_append, List.length_cons] at hlength
        omega
      have hgap : IsGap g := ⟨fun hnil => List.cons_ne_nil d rest (hend hnil), hg⟩
      obtain ⟨v, ws, hwords, hlaid⟩ := exists_laidOut_trimEnd (hrest d rfl) rest
      refine ⟨w, v :: ws, ?_, ?_⟩
      · rw [hw.words_append hgap, hwords]
      · rw [← List.append_assoc, trimEnd_append hlaid.ne_nil, List.append_assoc]
        exact .cons hw hgap hlaid
termination_by cs.length

/-- The blanks that a text begins with add no word. -/
theorem words_dropWhile (cs : CodeText) : words (cs.dropWhile isBlankPoint) = words cs :=
  calc words (cs.dropWhile isBlankPoint)
      = words (cs.takeWhile isBlankPoint ++ cs.dropWhile isBlankPoint) :=
        (words_append_of_blank (fun c hc => List.mem_takeWhile_imp hc) _).symm
    _ = words cs := by rw [List.takeWhile_append_dropWhile]

/-- A trimmed text is laid out in its words. -/
theorem laidOut_trim (cs : CodeText) : LaidOut (words cs) (trim cs) := by
  have hfirst := List.head?_dropWhile_not isBlankPoint cs
  rw [trim, trimOf, ← words_dropWhile]
  cases hrest : cs.dropWhile isBlankPoint with
  | nil => exact .nil
  | cons c rest =>
      rw [hrest] at hfirst
      obtain ⟨w, ws, hws, hlaid⟩ := exists_laidOut_trimEnd hfirst rest
      rw [hws]
      exact hlaid

/-- A text has no words exactly if it is blank. -/
theorem words_eq_nil_iff {cs : CodeText} : words cs = [] ↔ ∀ c ∈ cs, isBlankPoint c = true := by
  constructor
  · intro hnone
    rw [← words_dropWhile] at hnone
    have hfirst := List.head?_dropWhile_not isBlankPoint cs
    cases hrest : cs.dropWhile isBlankPoint with
    | nil => exact List.dropWhile_eq_nil_iff.mp hrest
    | cons c rest =>
        rw [hrest] at hfirst hnone
        obtain ⟨w, ws, hws, -⟩ := exists_laidOut_trimEnd hfirst rest
        cases hws.symm.trans hnone
  · intro hblank
    have hwords := words_append_of_blank hblank []
    rwa [List.append_nil] at hwords

section Collapsing

variable {w g cs : CodeText} {ws : List CodeText}

theorem IsWord.collapseFrom_append (hw : IsWord w) (afterBlank : Bool) (rest : CodeText) :
    collapseFrom afterBlank (w ++ rest) = w ++ collapse rest := by
  obtain ⟨hne, hsolid⟩ := hw
  induction w generalizing afterBlank with
  | nil => exact absurd rfl hne
  | cons c w ih =>
      have hc := hsolid c List.mem_cons_self
      rw [List.cons_append, collapseFrom, if_neg (by simp [hc]), List.cons_append]
      congr 1
      cases w with
      | nil => rfl
      | cons d w =>
          exact ih false (List.cons_ne_nil d w) fun x hx => hsolid x (List.mem_cons_of_mem _ hx)

theorem collapseFrom_append_of_blank (hg : ∀ c ∈ g, isBlankPoint c = true) (rest : CodeText) :
    collapseFrom true (g ++ rest) = collapseFrom true rest := by
  induction g with
  | nil => rfl
  | cons c g ih =>
      have hc := hg c List.mem_cons_self
      rw [List.cons_append, collapseFrom, if_pos hc, if_pos rfl]
      exact ih fun d hd => hg d (List.mem_cons_of_mem _ hd)

/-- A gap becomes one space. -/
theorem IsGap.collapse_append (hg : IsGap g) (rest : CodeText) :
    collapse (g ++ rest) = .char ' ' :: collapseFrom true rest := by
  obtain ⟨hne, hblank⟩ := hg
  cases g with
  | nil => exact absurd rfl hne
  | cons c g =>
      have hc := hblank c List.mem_cons_self
      rw [collapse, List.cons_append, collapseFrom, if_pos hc, if_neg (by simp),
        collapseFrom_append_of_blank fun d hd => hblank d (List.mem_cons_of_mem _ hd)]

/-- After a gap that has been written a text of words is collapsed as it would be at the start. -/
theorem LaidOut.collapseFrom_eq (h : LaidOut ws cs) (afterBlank : Bool) :
    collapseFrom afterBlank cs = spaced ws := by
  induction h generalizing afterBlank with
  | nil => cases afterBlank <;> rfl
  | @single w hw =>
      have happend := hw.collapseFrom_append afterBlank []
      rw [List.append_nil] at happend
      rw [happend, spaced, List.intercalate_singleton]
      exact List.append_nil w
  | @cons w g v cs ws hw hg _ ih =>
      rw [hw.collapseFrom_append, hg.collapse_append, ih, spaced, spaced,
        List.intercalate_cons_cons, List.append_assoc, List.singleton_append]

/-- What collapsing makes of a text depends on its words alone. -/
theorem LaidOut.collapse_eq (h : LaidOut ws cs) : collapse cs = spaced ws :=
  h.collapseFrom_eq false

end Collapsing

end MarkerLint.Text
