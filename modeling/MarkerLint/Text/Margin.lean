import MarkerLint.Text.Lines

/-!
# The margin of a text

The blanks that every line of a text with content begins with. They can be taken away together;
lines of nothing but blanks become empty and do not count.
-/

namespace MarkerLint.Text

/-- A blank that a margin may hold. -/
def isMarginBlank (c : Char) : Bool :=
  c == ' ' || c == '\t'

/-- The blanks at the beginning of a line. -/
def leadingBlanks (line : List Char) : List Char :=
  line.takeWhile isMarginBlank

/-- The longest common beginning of two texts. -/
def commonStart : List Char → List Char → List Char
  | c :: cs, d :: ds => if c = d then c :: commonStart cs ds else []
  | _, _ => []

/-- The common beginning of the blanks of several lines. -/
def commonMargin : List (List Char) → List Char
  | [] => []
  | line :: rest => rest.foldl (fun margin l => commonStart margin (leadingBlanks l))
      (leadingBlanks line)

/-- A text without its margin. -/
def dropMargin (cs : List Char) : List Char :=
  let lines := (splitAt '\n' cs).map fun line => if line.all isMarginBlank then [] else line
  let margin := commonMargin (lines.filter fun line => !line.isEmpty)
  List.intercalate ['\n'] (lines.map fun line => line.drop margin.length)

end MarkerLint.Text
