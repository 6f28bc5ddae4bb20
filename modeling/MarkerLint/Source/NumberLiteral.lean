import MarkerLint.Number.Fraction
import MarkerLint.Source.Tree

/-!
# Numbers in source texts

Integers in four bases, fractions and imaginary numbers. A decimal integer other than zero does not
begin with a zero and has no more digits than the limit. A letter may follow a number directly only
if it begins one of the words that may stand after an operand.
-/

namespace MarkerLint.Source

/-- A character that may belong to a name: in ASCII as it must be, beyond it any. -/
def mayBelongToName (c : Char) : Bool :=
  Text.isAsciiLetter c || Text.isAsciiDigit c || c == '_' || !Text.isAscii c

/-- The words that may follow a number without a blank, by their beginnings. -/
def wordsAfterNumber : List (List Char) :=
  ["and".toList, "else".toList, "for".toList, "if".toList, "in".toList, "is".toList, "or".toList,
   "not".toList]

/-- A number may end before the text. -/
def mayEndNumber (cs : List Char) : Bool :=
  match cs with
  | [] => true
  | c :: _ => !mayBelongToName c || wordsAfterNumber.any fun w => w.isPrefixOf cs

/-- A number with the rest of the text, if it may end there. -/
def ended (c : Constant) (rest : List Char) : Option (Constant × List Char) :=
  if mayEndNumber rest then some (c, rest) else none

/-- The digits of an integer in a base other than ten, after its prefix. -/
def basedInteger (base : Nat) (isDigit : Char → Bool) (cs : List Char) :
    Option (Constant × List Char) :=
  let cs := match cs with
    | '_' :: rest => rest
    | cs => cs
  match Digits.run isDigit cs with
  | ([], _) => none
  | (digits, rest) => ended (.integer (Digits.number base digits)) rest

/-- A floating-point number, which the letter of imaginary numbers may follow. -/
def floatEnded (x : Binary64) : List Char → Option (Constant × List Char)
  | [] => some (.float x, [])
  | c :: rest =>
      if c == 'j' || c == 'J' then ended (.imaginary x) rest else ended (.float x) (c :: rest)

/-- An exponent: nothing if there is none, a failure if its digits are missing after a sign. -/
def exponentDigits (cs : List Char) : Option (Option (Int × List Char)) :=
  match cs with
  | [] => some none
  | mark :: rest =>
      if mark != 'e' && mark != 'E' then some none
      else
        let (signed, negative, rest) := match rest with
          | '-' :: rest => (true, true, rest)
          | '+' :: rest => (true, false, rest)
          | rest => (false, false, rest)
        match Digits.run Text.isAsciiDigit rest with
        | ([], _) => if signed then none else some none
        | (digits, rest) =>
            let n : Int := Digits.number 10 digits
            some (some (if negative then -n else n, rest))

/-- A fraction whose whole digits and places have been read. -/
def fractionEnded (whole places : List Char) (cs : List Char) : Option (Constant × List Char) := do
  match ← exponentDigits cs with
  | some (e, rest) => floatEnded (Fraction.mk whole places e).value rest
  | none => floatEnded (Fraction.mk whole places 0).value cs

/-- A decimal integer whose digits have been read. -/
def integerEnded (digits rest : List Char) : Option (Constant × List Char) :=
  let n := Digits.number 10 digits
  if n != 0 && (digits.head? == some '0' || digits.length > digitLimit) then none
  else ended (.integer n) rest

/-- A decimal number whose whole digits have been read. -/
def decimalEnded (digits : List Char) (cs : List Char) : Option (Constant × List Char) :=
  match cs with
  | '.' :: rest =>
      let (places, rest) := Digits.run Text.isAsciiDigit rest
      fractionEnded digits places rest
  | _ => do
      match ← exponentDigits cs with
      | some _ => fractionEnded digits [] cs
      | none =>
          match cs with
          | [] => integerEnded digits []
          | c :: rest =>
              if c == 'j' || c == 'J' then ended (.imaginary (Fraction.mk digits [] 0).value) rest
              else integerEnded digits cs

/-- A number at the beginning of a text that begins with a digit, or with a point and a digit. -/
def numberLiteral? (cs : List Char) : Option (Constant × List Char) :=
  match cs with
  | '0' :: c :: rest =>
      if c == 'x' || c == 'X' then basedInteger 16 Digits.isHex rest
      else if c == 'o' || c == 'O' then basedInteger 8 Digits.isOctal rest
      else if c == 'b' || c == 'B' then basedInteger 2 Digits.isBinary rest
      else
        let (digits, rest) := Digits.run Text.isAsciiDigit cs
        decimalEnded digits rest
  | _ =>
      let (digits, rest) := Digits.run Text.isAsciiDigit cs
      decimalEnded digits rest

end MarkerLint.Source
