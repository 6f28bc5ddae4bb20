import MarkerLint.Text.Ranges

/-!
# Terminal escapes

A text that is not shown on a terminal is written without the escapes that set colours and styles:
the escape character, an opening bracket, parameters and a letter. An escape that breaks off stays.
-/

namespace MarkerLint.Text

/-- The character that begins an escape. -/
def escapeMark : Char := Char.ofNat 27

/-- A character of the parameters of an escape. -/
def isEscapeParameter (c : Char) : Bool :=
  c == ';' || c == '?' || isAsciiDigit c

/-- The text without escapes, after the beginning of one, which is given in reverse. -/
def dropEscapesFrom (pending : List Char) : List Char → List Char
  | [] => pending.reverse
  | c :: rest =>
      if c == escapeMark then pending.reverse ++ dropEscapesFrom [c] rest
      else
        match pending with
        | [] => c :: dropEscapesFrom [] rest
        | [mark] =>
            if c == '[' then dropEscapesFrom [c, mark] rest
            else mark :: c :: dropEscapesFrom [] rest
        | _ :: _ :: _ =>
            if isEscapeParameter c then dropEscapesFrom (c :: pending) rest
            else if isAsciiLetter c then dropEscapesFrom [] rest
            else pending.reverse ++ c :: dropEscapesFrom [] rest

/-- The text without escapes. -/
def dropEscapes (s : String) : String :=
  String.ofList (dropEscapesFrom [] s.toList)

/-- A text in which no escape begins stays as it is. -/
theorem dropEscapes_of_notMem {s : String} (h : escapeMark ∉ s.toList) : dropEscapes s = s := by
  have hfrom (cs : List Char) (hcs : escapeMark ∉ cs) : dropEscapesFrom [] cs = cs := by
    induction cs with
    | nil => rfl
    | cons c rest ih =>
        rw [List.mem_cons, not_or] at hcs
        have hmark : (c == escapeMark) = false := beq_eq_false_iff_ne.mpr (Ne.symm hcs.1)
        rw [dropEscapesFrom, hmark]
        exact congrArg (List.cons c) (ih hcs.2)
  rw [dropEscapes, hfrom s.toList h, String.ofList_toList]

end MarkerLint.Text
