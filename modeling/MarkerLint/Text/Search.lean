/-!
# Looking for a text inside another
-/

namespace MarkerLint.Text

/-- The first text occurs somewhere in the second, as it stands. -/
def occursIn {α : Type} [BEq α] (part : List α) : List α → Bool
  | [] => part.isEmpty
  | c :: rest => part.isPrefixOf (c :: rest) || occursIn part rest

/-- The rest of the text after a beginning, if it begins so. -/
def after? : List Char → List Char → Option (List Char)
  | [], cs => some cs
  | p :: ps, c :: cs => if p = c then after? ps cs else none
  | _ :: _, [] => none

/-- The text begins with the given one. -/
def beginsWith (start s : String) : Bool :=
  start.toList.isPrefixOf s.toList

/-- The text ends with the given one. -/
def endsWith (tail s : String) : Bool :=
  tail.toList.reverse.isPrefixOf s.toList.reverse

/-- Every occurrence of a character is replaced. -/
def replaceChar (old new : Char) (s : String) : String :=
  String.ofList (s.toList.map fun c => if c = old then new else c)

end MarkerLint.Text
