import MarkerLint.Text.CodePoint

/-!
# Blank characters

The blanks of the standard, trimming, and the words of a text: its longest runs without a blank.
-/

namespace MarkerLint.Text

/-- White space and the separators of lines, paragraphs and records. -/
def isBlank (c : Char) : Bool :=
  let n := c.toNat
  (decide (9 ≤ n) && decide (n ≤ 13)) || (decide (28 ≤ n) && decide (n ≤ 32))
    || n == 0x85 || n == 0xA0 || n == 0x1680 || (decide (0x2000 ≤ n) && decide (n ≤ 0x200A))
    || n == 0x2028 || n == 0x2029 || n == 0x202F || n == 0x205F || n == 0x3000

/-- The code point is a blank. -/
def isBlankPoint (c : CodePoint) : Bool :=
  c.isIn isBlank

/-- The text without what is blank at its end. -/
def trimEndOf {α : Type} (blank : α → Bool) (cs : List α) : List α :=
  (cs.reverse.dropWhile blank).reverse

/-- The text without what is blank at both ends. -/
def trimOf {α : Type} (blank : α → Bool) (cs : List α) : List α :=
  trimEndOf blank (cs.dropWhile blank)

/-- The text without the blanks at its end. -/
def trimEnd (cs : CodeText) : CodeText :=
  trimEndOf isBlankPoint cs

/-- The text without the blanks at both ends. -/
def trim (cs : CodeText) : CodeText :=
  trimOf isBlankPoint cs

/-- Writes one space for each longest run of blanks. `afterBlank` says that the run in hand has been
written already. -/
def collapseFrom (afterBlank : Bool) : CodeText → CodeText
  | [] => []
  | c :: rest =>
      if isBlankPoint c then
        if afterBlank then collapseFrom true rest else .char ' ' :: collapseFrom true rest
      else c :: collapseFrom false rest

/-- Every longest run of blanks becomes one space. -/
def collapse (cs : CodeText) : CodeText :=
  collapseFrom false cs

/-- The words of a text after an unfinished word, which is given. -/
def wordsFrom (word : CodeText) : CodeText → List CodeText
  | [] => if word.isEmpty then [] else [word]
  | c :: rest =>
      if isBlankPoint c then
        if word.isEmpty then wordsFrom [] rest else word :: wordsFrom [] rest
      else wordsFrom (word ++ [c]) rest

/-- The longest runs of code points that are not blank, in order. -/
def words (cs : CodeText) : List CodeText :=
  wordsFrom [] cs

end MarkerLint.Text
