import MarkerLint.Number.Decimal
import MarkerLint.Number.Power

/-!
# Binary floating-point numbers

The numbers of the 64-bit binary format as signed multiples of powers of two. A result is the exact
one rounded once, to the nearest number of the format and in a tie to the one with an even
significand, so every operation is exact arithmetic on integers followed by `ofRatio`.
-/

namespace MarkerLint

/-- A number of the 64-bit binary format. A finite one is `significand * 2 ^ exponent`, with a sign
that zero has too. Results of this module are in normal form: the significand is below `2 ^ 53`, the
exponent at least -1074, and one of the two is as large as it can be. -/
inductive Binary64 where
  | finite (negative : Bool) (significand : Nat) (exponent : Int)
  | infinite (negative : Bool)
  | nan
deriving DecidableEq, Repr

namespace Binary64

/-- Zero with a sign. -/
def zero (negative : Bool) : Binary64 := .finite negative 0 (-1074)

/-- `n * 2 ^ k` and a denominator, for any integer `k`. -/
def scaled (n : Nat) (k : Int) : Nat × Nat :=
  if 0 ≤ k then (n * powerOfTwo k, 1) else (n, powerOfTwo (-k))

/-- The quotient rounded to the nearest integer, a half to the even neighbour. -/
def roundHalfEven (num den : Nat) : Nat :=
  let q := num / den
  let twice := 2 * (num % den)
  if twice > den ∨ (twice = den ∧ q % 2 = 1) then q + 1 else q

/-- The exponent of the highest power of two that is at most `num / den`. -/
def floorLog2 (num den : Nat) : Int :=
  let guess : Int := (Nat.log2 num : Int) - Nat.log2 den
  let (n, d) :=
    if 0 ≤ guess then (num, den * powerOfTwo guess) else (num * powerOfTwo (-guess), den)
  if n < d then guess - 1 else guess

/-- The number of the format nearest to `num / den`, with the given sign. -/
def ofRatio (negative : Bool) (num den : Nat) : Binary64 :=
  if num = 0 then zero negative
  else
    let unit := max (floorLog2 num den - 52) (-1074)
    let (n, d) := if 0 ≤ unit then (num, den * powerOfTwo unit) else (num * powerOfTwo (-unit), den)
    let m := roundHalfEven n d
    let (m, e) := if m = powerOfTwo 53 then (powerOfTwo 52, unit + 1) else (m, unit)
    if e > 971 then .infinite negative else .finite negative m e

/-- The nearest number to an integer, however large. -/
def ofInt (i : Int) : Binary64 :=
  ofRatio (decide (i < 0)) i.natAbs 1

/-- The number is finite. -/
def isFinite : Binary64 → Bool
  | .finite .. => true
  | _ => false

/-- The number counts as zero, whatever its sign. -/
def isZero : Binary64 → Bool
  | .finite _ m _ => m == 0
  | _ => false

/-- The number with the other sign. -/
def neg : Binary64 → Binary64
  | .finite s m e => .finite (!s) m e
  | .infinite s => .infinite (!s)
  | .nan => .nan

/-- The number without its sign. -/
def abs : Binary64 → Binary64
  | .finite _ m e => .finite false m e
  | .infinite _ => .infinite false
  | .nan => .nan

/-- An integer with a sign. -/
def signed (negative : Bool) (m : Nat) : Int :=
  if negative then -(m : Int) else m

/-- The number nearest to `i * 2 ^ e`; an exact zero has the given sign. -/
def ofScaled (zeroSign : Bool) (i : Int) (e : Int) : Binary64 :=
  if i = 0 then zero zeroSign
  else
    let (num, den) := scaled i.natAbs e
    ofRatio (decide (i < 0)) num den

/-- The sum of two numbers. -/
def add : Binary64 → Binary64 → Binary64
  | .nan, _ => .nan
  | _, .nan => .nan
  | .infinite s, .infinite t => if s = t then .infinite s else .nan
  | .infinite s, .finite .. => .infinite s
  | .finite .., .infinite t => .infinite t
  | .finite s m e, .finite t n f =>
      let low := min e f
      let total := signed s m * powerOfTwo (e - low) + signed t n * powerOfTwo (f - low)
      ofScaled (s && t) total low

/-- The difference of two numbers. -/
def sub (x y : Binary64) : Binary64 := add x (neg y)

/-- The product of two numbers. -/
def mul : Binary64 → Binary64 → Binary64
  | .nan, _ => .nan
  | _, .nan => .nan
  | .infinite s, .infinite t => .infinite (s != t)
  | .infinite s, .finite t n _ => if n = 0 then .nan else .infinite (s != t)
  | .finite s m _, .infinite t => if m = 0 then .nan else .infinite (s != t)
  | .finite s m e, .finite t n f =>
      let (num, den) := scaled (m * n) (e + f)
      ofRatio (s != t) num den

/-- Compares `i * 2 ^ e` with `j * 2 ^ f` exactly. -/
def scaledLt (i : Int) (e : Int) (j : Int) (f : Int) : Bool :=
  let low := min e f
  decide (i * powerOfTwo (e - low) < j * powerOfTwo (f - low))

/-- The first number is smaller than the second. No number is smaller or greater than `nan`. -/
def lt : Binary64 → Binary64 → Bool
  | .nan, _ => false
  | _, .nan => false
  | .infinite s, .infinite t => s && !t
  | .infinite s, .finite .. => s
  | .finite .., .infinite t => !t
  | .finite s m e, .finite t n f => scaledLt (signed s m) e (signed t n) f

/-- The number is smaller than the integer, compared exactly. -/
def ltInt : Binary64 → Int → Bool
  | .nan, _ => false
  | .infinite s, _ => s
  | .finite s m e, i => scaledLt (signed s m) e i 0

/-- The number as an integer, if it is finite and has no fraction. -/
def toInt? : Binary64 → Option Int
  | .finite s m e =>
      if 0 ≤ e then some (signed s (m * powerOfTwo e))
      else if m % powerOfTwo (-e) = 0 then some (signed s (m / powerOfTwo (-e)))
      else none
  | _ => none

/-- The number nearest to `digits * 10 ^ exponent`. Powers of ten far outside the format are not
computed: their outcome is known. -/
def ofDecimal (negative : Bool) (digits : Nat) (exponent : Int) : Binary64 :=
  if digits = 0 then zero negative
  else
    let magnitude := (Nat.log2 digits : Int) / 4 + exponent
    let highest := (Nat.log2 digits : Int) + exponent
    if magnitude > 400 then .infinite negative
    else if highest < -400 then zero negative
    else if 0 ≤ exponent then ofRatio negative (digits * powerOfTen exponent) 1
    else ofRatio negative digits (powerOfTen (-exponent))

end Binary64

end MarkerLint
