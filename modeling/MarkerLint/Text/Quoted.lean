import MarkerLint.Text.CharClass
import MarkerLint.Text.CodePoint

/-!
# Quoted text

A text between quotation marks in which every character is either visible as it stands or written as
an escape. The single mark is used unless the text holds single marks and no double ones.
-/

namespace MarkerLint.Text.Quoted

/-- Which characters are left as they stand: all visible ones, or only those of ASCII. -/
inductive Repertoire where
  | visible
  | ascii
deriving DecidableEq, Repr

/-- The hexadecimal digit for a number below sixteen. -/
def hexDigit (n : Nat) : Char :=
  Nat.digitChar (n % 16)

/-- A number in hexadecimal, lower case, in exactly the given count of digits. -/
def hex : Nat → Nat → List Char
  | 0, _ => []
  | width + 1, n => hex width (n / 16) ++ [hexDigit n]

/-- The shortest of the three numeric escapes that holds the code point. -/
def numericEscape (n : Nat) : List Char :=
  if n < 0x100 then '\\' :: 'x' :: hex 2 n
  else if n < 0x10000 then '\\' :: 'u' :: hex 4 n
  else '\\' :: 'U' :: hex 8 n

/-- One character of a text between the given marks. -/
def encodeChar (r : Repertoire) (mark : Char) (c : Char) : List Char :=
  if c = mark ∨ c = '\\' then ['\\', c]
  else if c = '\t' then ['\\', 't']
  else if c = '\n' then ['\\', 'n']
  else if c = '\r' then ['\\', 'r']
  else if (isAscii c || r == .visible) && isPrintable c then [c]
  else numericEscape c.toNat

/-- One code point of a text between the given marks. A surrogate is never visible. -/
def encodePoint (r : Repertoire) (mark : Char) : CodePoint → List Char
  | .char c => encodeChar r mark c
  | .surrogate offset => numericEscape (CodePoint.surrogate offset).toNat

/-- The mark that a text is quoted with. -/
def markFor (t : CodeText) : Char :=
  if t.contains (.char '\'') && !t.contains (.char '"') then '"' else '\''

/-- The text between quotation marks. -/
def encode (r : Repertoire) (t : CodeText) : List Char :=
  let mark := markFor t
  mark :: t.flatMap (encodePoint r mark) ++ [mark]

/-- One byte of a byte string between the given marks. -/
def encodeByte (mark : Char) (b : UInt8) : List Char :=
  let c := Char.ofNat b.toNat
  if isAscii c then encodeChar .ascii mark c else '\\' :: 'x' :: hex 2 b.toNat

/-- A byte string between quotation marks, with the letter that tells it from a text. -/
def encodeBytes (bytes : List UInt8) : List Char :=
  let mark := markFor (bytes.map fun b => .char (Char.ofNat b.toNat))
  'b' :: mark :: bytes.flatMap (encodeByte mark) ++ [mark]

end MarkerLint.Text.Quoted
