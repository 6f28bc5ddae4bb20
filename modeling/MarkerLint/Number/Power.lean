/-!
# Powers of two and of ten

Scales of binary and decimal numbers. An exponent is an integer; a negative one counts as zero, and
the callers divide instead of multiplying there.
-/

namespace MarkerLint

/-- A power of two. -/
def powerOfTwo (k : Int) : Nat :=
  Nat.pow 2 k.toNat

/-- A power of ten. -/
def powerOfTen (k : Int) : Nat :=
  Nat.pow 10 k.toNat

theorem powerOfTwo_pos (k : Int) : 0 < powerOfTwo k :=
  Nat.pow_pos (by decide)

theorem powerOfTen_pos (k : Int) : 0 < powerOfTen k :=
  Nat.pow_pos (by decide)

end MarkerLint
