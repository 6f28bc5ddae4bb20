import Mathlib.Algebra.Group.Nat.Defs
import MarkerLint.Number.Decimal

/-!
# The digit limit

An integer is written in decimal exactly if it has no more digits than the limit allows, that is, if
its magnitude is below that power of ten.
-/

namespace MarkerLint.Decimal

theorem length_repr_le_iff {n : Nat} : (Nat.repr n).length ≤ digitLimit ↔ n < 10 ^ digitLimit := by
  rw [← String.length_toList, Nat.toList_repr]
  exact Nat.length_toDigits_le_iff (by decide) (by decide)

/-- Exactly the integers within the digit limit are written. -/
theorem text?_eq_ok_iff {i : Int} {s : String} :
    text? i = .ok s ↔ i.natAbs < 10 ^ digitLimit ∧ s = text i := by
  rw [text?, text, ← length_repr_le_iff]
  split
  · next h => simp [Nat.not_le.mpr h]
  · next h => simp [Nat.not_lt.mp h, eq_comm]

/-- An integer beyond the digit limit is refused. -/
theorem text?_of_le {i : Int} (h : 10 ^ digitLimit ≤ i.natAbs) : text? i = .error .tooManyDigits := by
  have hlong : digitLimit < (Nat.repr i.natAbs).length :=
    Nat.not_le.mp fun hshort => Nat.not_lt.mpr h (length_repr_le_iff.mp hshort)
  rw [text?, if_pos hlong]

end MarkerLint.Decimal
