/-!
# Ascending lists of texts

Sets of texts as lists in ascending order without repetition. Texts are ordered by their code
points.
-/

namespace MarkerLint.Text

/-- Adds a text to an ascending list, unless it is there already. -/
def insertAscending (s : String) : List String → List String
  | [] => [s]
  | t :: rest =>
      if s = t then t :: rest else if s < t then s :: t :: rest else t :: insertAscending s rest

/-- The texts in ascending order without repetition. -/
def ascending (texts : List String) : List String :=
  texts.foldl (fun sorted s => insertAscending s sorted) []

theorem mem_insertAscending {s t : String} {texts : List String} :
    t ∈ insertAscending s texts ↔ t = s ∨ t ∈ texts := by
  induction texts with
  | nil => simp [insertAscending]
  | cons u rest ih =>
      simp only [insertAscending]
      split
      · next h => subst h; simp
      · split
        · simp
        · simp only [List.mem_cons, ih]
          constructor
          · rintro (h | h | h) <;> simp [h]
          · rintro (h | h | h) <;> simp [h]

/-- An ascending list stays ascending. -/
theorem pairwise_insertAscending {s : String} {texts : List String}
    (h : texts.Pairwise (· < ·)) : (insertAscending s texts).Pairwise (· < ·) := by
  induction texts with
  | nil => exact List.pairwise_singleton _ s
  | cons t rest ih =>
      obtain ⟨hfirst, hrest⟩ := List.pairwise_cons.mp h
      rw [insertAscending]
      split
      · exact h
      · next hne =>
          split
          · next hlt =>
              refine List.pairwise_cons.mpr ⟨fun u hu => ?_, h⟩
              rcases List.mem_cons.mp hu with rfl | hu
              · exact hlt
              · exact String.lt_trans hlt (hfirst u hu)
          · next hnlt =>
              have hgt : t < s := by
                apply Decidable.byContradiction
                intro hn
                exact hne (String.le_antisymm (String.not_lt.mp hn) (String.not_lt.mp hnlt))
              refine List.pairwise_cons.mpr ⟨fun u hu => ?_, ih hrest⟩
              rcases mem_insertAscending.mp hu with rfl | hu
              · exact hgt
              · exact hfirst u hu

theorem mem_ascending {t : String} {texts : List String} : t ∈ ascending texts ↔ t ∈ texts := by
  have hfold (sorted : List String) :
      t ∈ texts.foldl (fun sorted s => insertAscending s sorted) sorted ↔ t ∈ texts ∨ t ∈ sorted := by
    induction texts generalizing sorted with
    | nil => simp
    | cons s rest ih =>
        rw [List.foldl_cons, ih, mem_insertAscending, List.mem_cons, or_left_comm, or_assoc]
  simpa [ascending] using hfold []

theorem pairwise_ascending (texts : List String) : (ascending texts).Pairwise (· < ·) := by
  have hfold (sorted : List String) (h : sorted.Pairwise (· < ·)) :
      (texts.foldl (fun sorted s => insertAscending s sorted) sorted).Pairwise (· < ·) := by
    induction texts generalizing sorted with
    | nil => exact h
    | cons s rest ih => exact ih _ (pairwise_insertAscending h)
  exact hfold [] List.Pairwise.nil

end MarkerLint.Text
