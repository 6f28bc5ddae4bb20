import MarkerLint.Number.Binary64

/-!
# Amounts

Integers and floating-point numbers in one sum. Integers are added exactly until the first
floating-point number; from then on every integer is rounded to the format first, and one too large
for it makes the outcome undefined.
-/

namespace MarkerLint

/-- An exact integer or a floating-point number. -/
inductive Amount where
  | exact (i : Int)
  | approximate (x : Binary64)
deriving DecidableEq, Repr

namespace Amount

/-- The nearest floating-point number, if the amount is not too large. -/
def approximate? : Amount → Option Binary64
  | .exact i =>
      let x := Binary64.ofInt i
      if x.isFinite then some x else none
  | .approximate x => some x

/-- Combines two amounts: exactly if both are integers. -/
def combine (onInt : Int → Int → Int) (onFloat : Binary64 → Binary64 → Binary64) :
    Amount → Amount → Option Amount
  | .exact i, .exact j => some (.exact (onInt i j))
  | a, b => do
      let x ← a.approximate?
      let y ← b.approximate?
      some (.approximate (onFloat x y))

/-- The sum of two amounts. -/
def add : Amount → Amount → Option Amount :=
  combine (· + ·) Binary64.add

/-- The difference of two amounts. -/
def sub : Amount → Amount → Option Amount :=
  combine (· - ·) Binary64.sub

/-- The amount without its sign. -/
def abs : Amount → Amount
  | .exact i => .exact i.natAbs
  | .approximate x => .approximate x.abs

/-- The sum of amounts, from the left. -/
def sum (amounts : List Amount) : Option Amount :=
  amounts.foldlM add (.exact 0)

/-- The product with a floating-point factor. -/
def scale (factor : Binary64) (a : Amount) : Option Binary64 :=
  a.approximate?.map fun x => x.mul factor

/-- The amount is greater than a floating-point number, compared exactly. -/
def exceeds : Amount → Binary64 → Bool
  | .exact i, x => x.ltInt i
  | .approximate y, x => x.lt y

end Amount

end MarkerLint
