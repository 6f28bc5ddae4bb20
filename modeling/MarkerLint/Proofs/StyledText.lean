import Mathlib.Data.List.Forall2
import MarkerLint.Proofs.ReportLines
import MarkerLint.Summary
import MarkerLint.Text.Escapes

/-!
# Styled texts

A text with escapes for styles shows another text once the escapes are taken out. Texts in a row
show what each of them shows, provided that no escape breaks off at the end of one and goes on in
the next.
-/

namespace MarkerLint.Text

/-- The text is printed on one line as it stands: it holds no line end and no escape begins in it.
-/
def IsPlain (s : String) : Prop :=
  ∀ c ∈ s.toList, isLineBreak c = false ∧ c ≠ escapeMark

/-- The text is printed on one line, and without escapes it is the other one, whatever follows it.
-/
structure Shows (s shown : String) : Prop where
  unbroken : ∀ c ∈ s.toList, isLineBreak c = false
  dropEscapesFrom_append : ∀ rest,
    dropEscapesFrom [] (s.toList ++ rest) = shown.toList ++ dropEscapesFrom [] rest

theorem Shows.dropEscapes_eq {s shown : String} (h : Shows s shown) : dropEscapes s = shown := by
  have hfrom := h.dropEscapesFrom_append []
  rw [List.append_nil] at hfrom
  rw [dropEscapes, hfrom, show dropEscapesFrom [] [] = [] from rfl, List.append_nil,
    String.ofList_toList]

theorem isPlain_of_all {s : String}
    (h : (s.toList.all fun c => !isLineBreak c && c != escapeMark) = true) : IsPlain s := by
  intro c hc
  simpa using List.all_eq_true.mp h c hc

theorem IsPlain.append {s t : String} (hs : IsPlain s) (ht : IsPlain t) : IsPlain (s ++ t) := by
  intro c hc
  rw [String.toList_append, List.mem_append] at hc
  exact hc.elim (hs c) (ht c)

theorem isPlain_replicate (n : Nat) {c : Char} (hc : isLineBreak c = false ∧ c ≠ escapeMark) :
    IsPlain (String.ofList (List.replicate n c)) := by
  intro d hd
  rw [String.toList_ofList] at hd
  rwa [List.eq_of_mem_replicate hd]

/-- A plain text shows itself. -/
theorem IsPlain.shows {s : String} (h : IsPlain s) : Shows s s where
  unbroken c hc := (h c hc).1
  dropEscapesFrom_append rest := by
    have hfrom (cs : List Char) (hcs : ∀ c ∈ cs, c ≠ escapeMark) :
        dropEscapesFrom [] (cs ++ rest) = cs ++ dropEscapesFrom [] rest := by
      induction cs with
      | nil => rfl
      | cons c cs ih =>
          have hmark : (c == escapeMark) = false := beq_eq_false_iff_ne.mpr (hcs c List.mem_cons_self)
          rw [List.cons_append, dropEscapesFrom, hmark]
          exact congrArg (List.cons c) (ih fun d hd => hcs d (List.mem_cons_of_mem _ hd))
    exact hfrom s.toList fun c hc => (h c hc).2

theorem Shows.append {s t shown shown' : String} (hs : Shows s shown) (ht : Shows t shown') :
    Shows (s ++ t) (shown ++ shown') where
  unbroken c hc := by
    rw [String.toList_append, List.mem_append] at hc
    exact hc.elim (hs.unbroken c) (ht.unbroken c)
  dropEscapesFrom_append rest := by
    rw [String.toList_append, List.append_assoc, hs.dropEscapesFrom_append,
      ht.dropEscapesFrom_append, String.toList_append, List.append_assoc]

theorem Shows.intercalate {separator : String} (hseparator : IsPlain separator)
    {parts shown : List String} (h : List.Forall₂ Shows parts shown) :
    Shows (separator.intercalate parts) (separator.intercalate shown) := by
  induction h with
  | nil =>
      rw [String.intercalate_nil]
      exact IsPlain.shows fun c hc => by cases hc
  | cons hpart hrest ih =>
      cases hrest with
      | nil =>
          rw [String.intercalate_singleton, String.intercalate_singleton]
          exact hpart
      | cons hnext hrest =>
          rw [String.intercalate_cons_cons, String.intercalate_cons_cons]
          exact (hpart.append hseparator.shows).append ih

/-- The parameters of an escape are passed over up to its letter. -/
theorem dropEscapesFrom_parameters {parameters : List Char}
    (h : ∀ c ∈ parameters, isEscapeParameter c = true) (a b : Char) (pending rest : List Char) :
    dropEscapesFrom (a :: b :: pending) (parameters ++ 'm' :: rest) = dropEscapesFrom [] rest := by
  induction parameters generalizing a b pending with
  | nil => rfl
  | cons c parameters ih =>
      have hc := h c List.mem_cons_self
      have hmark : (c == escapeMark) = false := by
        rw [beq_eq_false_iff_ne]
        rintro rfl
        exact absurd hc (by decide)
      rw [List.cons_append, dropEscapesFrom, hmark]
      simp only [hc, if_true, Bool.false_eq_true, if_false]
      exact ih (fun d hd => h d (List.mem_cons_of_mem _ hd)) c a (b :: pending)

/-- A style shows nothing. -/
theorem shows_style {code : String} (h : code.toList.all isEscapeParameter = true) :
    Shows (Summary.style code) "" where
  unbroken c hc := by
    rw [List.all_eq_true] at h
    simp only [Summary.style, String.toList_append, String.toList_ofList, List.mem_append] at hc
    rcases hc with ((hc | hc) | hc) | hc
    · obtain rfl := List.mem_singleton.mp hc
      rfl
    · obtain rfl := List.mem_singleton.mp hc
      rfl
    · exact isLineBreak_eq_false_of (p := isEscapeParameter) (by decide) (h c hc)
    · obtain rfl := List.mem_singleton.mp hc
      rfl
  dropEscapesFrom_append rest := by
    have hstyle : (Summary.style code).toList = escapeMark :: '[' :: (code.toList ++ ['m']) := by
      simp [Summary.style, escapeMark]
    rw [hstyle, List.cons_append, List.cons_append, List.append_assoc]
    exact dropEscapesFrom_parameters (List.all_eq_true.mp h) '[' escapeMark [] rest

/-- Texts that are printed as lines are the lines of what is printed. -/
theorem lines_join {texts : List String} (h : ∀ s ∈ texts, ∀ c ∈ s.toList, isLineBreak c = false) :
    lines (String.join (texts.map (· ++ "\n"))).toList = texts.map String.toList := by
  have hjoin : (String.join (texts.map (· ++ "\n"))).toList =
      (texts.map String.toList).flatMap (· ++ ['\n']) := by
    rw [String.toList_join, List.flatMap_map, List.flatMap_map]
    simp only [String.toList_append]
    rfl
  have hlines : (texts.map String.toList).flatMap (fun cs => lines (cs ++ ['\n'])) =
      (texts.map String.toList).flatMap fun cs => [cs] := by
    apply List.flatMap_congr
    intro cs hcs
    obtain ⟨s, hs, rfl⟩ := List.mem_map.mp hcs
    exact lines_unbroken (h s hs)
  rw [hjoin, lines_flatMap, hlines, List.flatMap_singleton']

end MarkerLint.Text
