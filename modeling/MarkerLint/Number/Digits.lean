import MarkerLint.Number.Decimal

/-!
# Runs of digits

Digits with single low lines between them, as they are written in source texts and documents.
-/

namespace MarkerLint.Digits

/-- The digits that go on after a digit, and the rest. -/
def more (isDigit : Char → Bool) : List Char → List Char × List Char
  | [] => ([], [])
  | '_' :: c :: rest =>
      if isDigit c then
        let (digits, rest) := more isDigit rest
        (c :: digits, rest)
      else ([], '_' :: c :: rest)
  | c :: rest =>
      if isDigit c then
        let (digits, rest) := more isDigit rest
        (c :: digits, rest)
      else ([], c :: rest)

/-- The digits at the beginning of a text, without low lines, and the rest. -/
def run (isDigit : Char → Bool) : List Char → List Char × List Char
  | [] => ([], [])
  | c :: rest =>
      if isDigit c then
        let (digits, rest) := more isDigit rest
        (c :: digits, rest)
      else ([], c :: rest)

/-- A hexadecimal digit in either case. -/
def isHex (c : Char) : Bool :=
  Text.isAsciiDigit c || (decide ('a' ≤ c) && decide (c ≤ 'f'))
    || (decide ('A' ≤ c) && decide (c ≤ 'F'))

/-- A digit in base two. -/
def isBinary (c : Char) : Bool :=
  c == '0' || c == '1'

/-- A digit in base eight. -/
def isOctal (c : Char) : Bool :=
  decide ('0' ≤ c) && decide (c ≤ '7')

/-- The value of a hexadecimal digit. -/
def valueOf (c : Char) : Nat :=
  if Text.isAsciiDigit c then c.toNat - '0'.toNat
  else if 'a' ≤ c then c.toNat - 'a'.toNat + 10
  else c.toNat - 'A'.toNat + 10

/-- The number whose digits in a base are listed. -/
def number (base : Nat) (digits : List Char) : Nat :=
  Decimal.ofDigits base (digits.map valueOf)

end MarkerLint.Digits
