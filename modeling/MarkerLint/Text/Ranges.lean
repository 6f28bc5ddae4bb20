/-!
# Sets of characters given by ranges

A set of characters of the standard is a list of inclusive ranges of code points. The tables of this
library start at U+0080: below it each set is spelled out, so that it can be read at a glance.
-/

namespace MarkerLint.Text

/-- The character lies in one of the inclusive ranges. -/
def inRanges (ranges : List (Nat × Nat)) (c : Char) : Bool :=
  ranges.any fun r => decide (r.1 ≤ c.toNat) && decide (c.toNat ≤ r.2)

/-- The character belongs to the first 128 code points. -/
def isAscii (c : Char) : Bool :=
  decide (c.toNat < 128)

/-- One of the digits 0 to 9. -/
def isAsciiDigit (c : Char) : Bool :=
  decide ('0' ≤ c) && decide (c ≤ '9')

/-- One of the letters A to Z, in either case. -/
def isAsciiLetter (c : Char) : Bool :=
  (decide ('a' ≤ c) && decide (c ≤ 'z')) || (decide ('A' ≤ c) && decide (c ≤ 'Z'))

end MarkerLint.Text
