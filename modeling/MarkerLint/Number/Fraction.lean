import MarkerLint.Number.Binary64
import MarkerLint.Number.Digits

/-!
# Reading decimal fractions

A decimal fraction as it is written: digits, a point with digits after it, and an exponent. It
stands for the number of the format nearest to it.
-/

namespace MarkerLint

/-- A written decimal fraction without a sign. -/
structure Fraction where
  whole : List Char
  places : List Char
  exponent : Int
deriving DecidableEq, Repr

namespace Fraction

/-- The nearest number of the format. -/
def value (f : Fraction) : Binary64 :=
  Binary64.ofDecimal false (Digits.number 10 (f.whole ++ f.places)) (f.exponent - f.places.length)

/-- The exponent that ends a fraction. -/
def exponent? : List Char → Option Int
  | [] => some 0
  | mark :: rest =>
      if mark != 'e' && mark != 'E' then none
      else
        let (negative, digits) := match rest with
          | '-' :: digits => (true, digits)
          | '+' :: digits => (false, digits)
          | digits => (false, digits)
        if digits.isEmpty || !digits.all Text.isAsciiDigit then none
        else
          let n : Int := Digits.number 10 digits
          some (if negative then -n else n)

/-- The digits after a point, if there is one, and the rest. -/
def placesOf (cs : List Char) : List Char × List Char :=
  match cs with
  | '.' :: rest => rest.span Text.isAsciiDigit
  | rest => ([], rest)

/-- The fraction that a text is. -/
def read? (cs : List Char) : Option Fraction :=
  let (whole, rest) := cs.span Text.isAsciiDigit
  let (digits, rest) := placesOf rest
  if whole.isEmpty && digits.isEmpty then none
  else (exponent? rest).map fun e => ⟨whole, digits, e⟩

end Fraction

end MarkerLint
