/-!
# Lines of a text

A line ends at any of the line boundaries of the standard; a carriage return and the line feed after
it are one boundary.
-/

namespace MarkerLint.Text

/-- The character ends a line. -/
def isLineBreak (c : Char) : Bool :=
  let n := c.toNat
  (decide (10 ≤ n) && decide (n ≤ 13)) || (decide (28 ≤ n) && decide (n ≤ 30))
    || n == 0x85 || n == 0x2028 || n == 0x2029

/-- The lines of a text after an unfinished line, whose characters are given in reverse. -/
def linesFrom (line : List Char) : List Char → List (List Char)
  | [] => if line.isEmpty then [] else [line.reverse]
  | '\r' :: '\n' :: rest => line.reverse :: linesFrom [] rest
  | c :: rest =>
      if isLineBreak c then line.reverse :: linesFrom [] rest else linesFrom (c :: line) rest

/-- The lines of a text without their ends. A boundary at the very end starts no further line. -/
def lines (cs : List Char) : List (List Char) :=
  linesFrom [] cs

/-- Every line end of a text file, written in one of the three common ways, becomes a line feed. -/
def unifyLineEnds : List Char → List Char
  | [] => []
  | '\r' :: '\n' :: rest => '\n' :: unifyLineEnds rest
  | '\r' :: rest => '\n' :: unifyLineEnds rest
  | c :: rest => c :: unifyLineEnds rest

/-- The parts of a text between the line feeds in it, with an unfinished part in reverse. -/
def splitAtFrom (separator : Char) (part : List Char) : List Char → List (List Char)
  | [] => [part.reverse]
  | c :: rest =>
      if c == separator then part.reverse :: splitAtFrom separator [] rest
      else splitAtFrom separator (c :: part) rest

/-- The parts of a text between the occurrences of one character: always one more than these. -/
def splitAt (separator : Char) (cs : List Char) : List (List Char) :=
  splitAtFrom separator [] cs

end MarkerLint.Text
