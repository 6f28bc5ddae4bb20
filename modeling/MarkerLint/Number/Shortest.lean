import MarkerLint.Number.Binary64

/-!
# Shortest decimal text of a floating-point number

Of the decimals that read back as the number, the ones with the fewest digits are taken, and of
these the one nearest to the number. The candidates with a given count of digits are the two
neighbours of the number on the decimal grid of that width.
-/

namespace MarkerLint.Shortest

/-- The decimal digits of a positive number. -/
def digitsOf (n : Nat) : List Char :=
  Nat.toDigits 10 n

/-- The exponent of the highest power of ten that is at most `num / den`. -/
def floorLog10 (num den : Nat) : Int :=
  if den ≤ num then ((digitsOf (num / den)).length : Int) - 1
  else
    let d := (digitsOf (den / num)).length
    if num * powerOfTen (d - 1) = den then -((d : Int) - 1) else -(d : Int)

/-- The numbers that round to one number: the bounds over a common denominator, and whether the
bounds themselves belong to it. -/
structure Interval where
  low : Nat
  value : Nat
  high : Nat
  den : Nat
  closed : Bool

/-- The interval of the numbers that round to `m * 2 ^ e`. Below a power of two the format is twice
as fine, so the lower bound is nearer there. -/
def Interval.of (m : Nat) (e : Int) : Interval :=
  let narrow := decide (m = powerOfTwo 52) && decide (e > -1074)
  let low := if narrow then 4 * m - 1 else 4 * m - 2
  let (f, d) := if 0 ≤ e - 2 then (powerOfTwo (e - 2), 1) else (1, powerOfTwo (2 - e))
  ⟨low * f, 4 * m * f, (4 * m + 2) * f, d, m % 2 == 0⟩

/-- `n * 10 ^ k` lies in the interval. -/
def Interval.contains (i : Interval) (n : Nat) (k : Int) : Bool :=
  let (x, scale) := if 0 ≤ k then (n * powerOfTen k * i.den, 1) else (n * i.den, powerOfTen (-k))
  if i.closed then decide (i.low * scale ≤ x) && decide (x ≤ i.high * scale)
  else decide (i.low * scale < x) && decide (x < i.high * scale)

/-- The decimal with the last digit at the power `k` of ten that is in the interval and nearest to
its value, if there is one. Of two equally near ones the even one is taken. -/
def Interval.nearest? (i : Interval) (k : Int) : Option Nat :=
  let (num, den) :=
    if 0 ≤ k then (i.value, i.den * powerOfTen k) else (i.value * powerOfTen (-k), i.den)
  let below := num / den
  let twice := 2 * (num % den)
  let up := decide (twice > den) || (twice == den && below % 2 == 1)
  let (first, second) := if up then (below + 1, below) else (below, below + 1)
  if i.contains first k then some first
  else if i.contains second k then some second
  else none

/-- The shortest digits of `m * 2 ^ e`, without zeros at the end, and the power of ten of the last
one. Seventeen digits always suffice. -/
def decimal (m : Nat) (e : Int) : List Char × Int :=
  let i := Interval.of m e
  let top := floorLog10 i.value i.den
  let found := (List.range 17).findSome? fun (n : Nat) =>
    let k := top - n
    (i.nearest? k).map fun digits => (digits, k)
  let (digits, k) := found.getD (0, 0)
  let reversed := (digitsOf digits).reverse
  let zeros := (reversed.takeWhile (· == '0')).length
  ((reversed.drop zeros).reverse, k + zeros)

/-- How digits are laid out: which exponents are written with a point alone. -/
structure Layout where
  /-- The least position of the point, counted from the first digit, written without an exponent. -/
  leastPoint : Int
  /-- The greatest such position. -/
  greatestPoint : Int
  /-- A whole number is written with a point and a zero. -/
  pointZero : Bool

/-- The layout of numbers in this library's output: from 0.0001 up to below 10 ^ 16 without an
exponent, whole numbers with a zero after the point. -/
def Layout.plain : Layout := ⟨-3, 16, true⟩

/-- An exponent: its sign, then at least two digits. -/
def exponentText (e : Int) : List Char :=
  let digits := digitsOf e.natAbs
  let padded := if digits.length < 2 then '0' :: digits else digits
  (if e < 0 then '-' else '+') :: padded

/-- Lays out digits whose last one stands at the power `k` of ten. -/
def Layout.render (l : Layout) (digits : List Char) (k : Int) : List Char :=
  let count : Int := digits.length
  let point := count + k
  if l.leastPoint ≤ point ∧ point ≤ l.greatestPoint then
    if point ≤ 0 then '0' :: '.' :: List.replicate (-point).toNat '0' ++ digits
    else if point < count then digits.take point.toNat ++ '.' :: digits.drop point.toNat
    else
      digits ++ List.replicate (point - count).toNat '0' ++ (if l.pointZero then ['.', '0'] else [])
  else
    match digits with
    | [] => []
    | [d] => d :: 'e' :: exponentText (point - 1)
    | d :: rest => d :: '.' :: rest ++ 'e' :: exponentText (point - 1)

/-- The shortest text of a number in a layout. -/
def textIn (l : Layout) : Binary64 → String
  | .nan => "nan"
  | .infinite s => if s then "-inf" else "inf"
  | .finite s m e =>
      let body :=
        if m = 0 then (if l.pointZero then ['0', '.', '0'] else ['0'])
        else
          let (digits, k) := decimal m e
          l.render digits k
      String.ofList (if s then '-' :: body else body)

/-- The shortest text of a number. -/
def text (x : Binary64) : String :=
  textIn .plain x

end MarkerLint.Shortest
