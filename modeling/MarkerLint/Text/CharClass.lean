import MarkerLint.Text.Ranges
import MarkerLint.Text.PrintableTable
import MarkerLint.Text.WordTable
import MarkerLint.Text.IdentifierTable

/-!
# Classes of characters

Visible characters, word characters, digits and the characters of identifiers. Each class is spelled
out on the first 128 code points and read from a table of the standard above them.
-/

namespace MarkerLint.Text

/-- The character has a visible form; the plain space counts, other spaces do not. -/
def isPrintable (c : Char) : Bool :=
  if isAscii c then decide (' ' ≤ c) && decide (c ≤ '~') else !inRanges unprintableRanges c

/-- A letter, a number or the low line. -/
def isWord (c : Char) : Bool :=
  if isAscii c then isAsciiLetter c || isAsciiDigit c || c == '_' else inRanges wordRanges c

/-- A decimal digit of any script. -/
def isDecimal (c : Char) : Bool :=
  if isAscii c then isAsciiDigit c else inRanges decimalRanges c

/-- A digit in the wide sense: superscripts and circled digits count. -/
def isDigit (c : Char) : Bool :=
  if isAscii c then isAsciiDigit c else inRanges digitRanges c

/-- The value of a decimal digit of any script. -/
def decimalValue? (c : Char) : Option Nat :=
  if isAscii c then if isAsciiDigit c then some (c.toNat - '0'.toNat) else none
  else
    (decimalRanges.find? fun r => decide (r.1 ≤ c.toNat) && decide (c.toNat ≤ r.2)).map
      fun r => (c.toNat - r.1) % 10

/-- The character may start an identifier. -/
def isIdentifierStart (c : Char) : Bool :=
  if isAscii c then isAsciiLetter c || c == '_' else inRanges identifierStartRanges c

/-- The character may stand in an identifier after its first character. -/
def isIdentifierPart (c : Char) : Bool :=
  if isAscii c then isAsciiLetter c || isAsciiDigit c || c == '_'
  else inRanges identifierStartRanges c || inRanges identifierContinueRanges c

end MarkerLint.Text
