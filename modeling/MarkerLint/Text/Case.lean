import MarkerLint.Text.CaseTable
import MarkerLint.Text.CodePoint
import MarkerLint.Text.Ranges

/-!
# Letter case of a text

Lower, upper and title case. A mapping may write several characters for one, and the lower case of a
capital sigma depends on its surroundings: at the end of a word it is the final form.
-/

namespace MarkerLint.Text

/-- The image of a code point under a table of runs. -/
def CaseRun.map? (runs : List CaseRun) (n : Nat) : Option Nat :=
  (runs.find? fun r =>
    decide (r.first ≤ n) && decide (n ≤ r.last) && (n - r.first) % r.stride == 0).map
      fun r => ((n : Int) + r.shift).toNat

/-- The characters listed for a code point. -/
def sequence? (table : List (Nat × List Nat)) (n : Nat) : Option (List Char) :=
  (table.lookup n).map (·.map Char.ofNat)

/-- The upper case of one character. -/
def upperChar (c : Char) : List Char :=
  if isAscii c then [c.toUpper]
  else
    match sequence? upperSequences c.toNat with
    | some cs => cs
    | none =>
        match CaseRun.map? upperRuns c.toNat with
        | some n => [Char.ofNat n]
        | none => [c]

/-- The form of one character at the start of a word. -/
def titleChar (c : Char) : List Char :=
  if isAscii c then [c.toUpper]
  else
    match sequence? titleSequences c.toNat with
    | some cs => cs
    | none => if inRanges titleFixedRanges c then [c] else upperChar c

/-- The lower case of one character, whatever stands around it. -/
def lowerChar (c : Char) : List Char :=
  if isAscii c then [c.toLower]
  else
    match sequence? lowerSequences c.toNat with
    | some cs => cs
    | none =>
        match CaseRun.map? lowerRuns c.toNat with
        | some n => [Char.ofNat n]
        | none => [c]

/-- The character is a letter with a case. -/
def isCased (c : Char) : Bool :=
  if isAscii c then isAsciiLetter c else inRanges casedRanges c

/-- The character is passed over when the case of its surroundings is asked. -/
def isCaseIgnorable (c : Char) : Bool :=
  if isAscii c then c == '\'' || c == '.' || c == ':' || c == '^' || c.toNat == 0x60
  else inRanges caseIgnorableRanges c

/-- The nearest code point that counts has a case. -/
def nextIsCased (cs : CodeText) : Bool :=
  match cs.dropWhile (·.isIn isCaseIgnorable) with
  | [] => false
  | c :: _ => c.isIn isCased

/-- The capital sigma. -/
def capitalSigma : Char := Char.ofNat 0x3A3

/-- The lower case of a character between the code points before it, nearest first, and those after
it. A capital sigma takes its final form after a cased letter that no other one follows. -/
def lowerBetween (before : CodeText) (c : Char) (after : CodeText) : List Char :=
  if c == capitalSigma then
    if nextIsCased before && !nextIsCased after then [Char.ofNat 0x3C2] else [Char.ofNat 0x3C3]
  else lowerChar c

/-- The lower case of a code point between those before and after it. A surrogate has no case. -/
def lowerPoint (before : CodeText) (p : CodePoint) (after : CodeText) : CodeText :=
  match p with
  | .char c => (lowerBetween before c after).map .char
  | .surrogate _ => [p]

/-- Lower case of a text whose beginning, nearest first, has been written. -/
def lowerFrom (before : CodeText) : CodeText → CodeText
  | [] => []
  | p :: rest => lowerPoint before p rest ++ lowerFrom (p :: before) rest

/-- The text in lower case. -/
def lower (cs : CodeText) : CodeText :=
  lowerFrom [] cs

/-- The text in upper case. -/
def upper (cs : List Char) : List Char :=
  cs.flatMap upperChar

/-- Title case of a text whose beginning, nearest first, has been written. -/
def titleFrom (before : List Char) : List Char → List Char
  | [] => []
  | c :: rest =>
      let afterCased := match before with
        | [] => false
        | b :: _ => isCased b
      (if afterCased then lowerBetween (before.map .char) c (rest.map .char) else titleChar c)
        ++ titleFrom (c :: before) rest

/-- Every word begins with its title form and goes on in lower case. A word begins after each
character without a case. -/
def title (cs : List Char) : List Char :=
  titleFrom [] cs

/-- The text in upper case. -/
def upperText (s : String) : String :=
  String.ofList (upper s.toList)

/-- The text in title case. -/
def titleText (s : String) : String :=
  String.ofList (title s.toList)

end MarkerLint.Text
