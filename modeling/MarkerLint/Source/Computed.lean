import MarkerLint.Source.Rendering

/-!
# Expressions that are kept as text

An expression that computes something is never read as data. It is kept as the text it would be
written with, and an operand stands in brackets if it binds less tightly than the operator, or as
tightly on the side to which the operator does not group.
-/

namespace MarkerLint.Source

namespace Strength

/-- How tightly a function without a name binds. -/
def function : Nat := 0

/-- How tightly a condition with its alternatives binds. -/
def condition : Nat := 1

/-- How tightly `or` binds. -/
def disjunction : Nat := 2

/-- How tightly `and` binds. -/
def conjunction : Nat := 3

/-- How tightly a comparison binds. -/
def comparison : Nat := 5

/-- How tightly the operator on bits binds that binds least of all operators with two operands. -/
def bits : Nat := 6

/-- How tightly a power binds. -/
def power : Nat := 13

/-- How tightly a wait binds. -/
def wait : Nat := 14

end Strength

/-- The operators between two operands that group to the left, by how tightly they bind. -/
def leftOperators : Nat → List String
  | 6 => ["|"]
  | 7 => ["^"]
  | 8 => ["&"]
  | 9 => ["<<", ">>"]
  | 10 => ["+", "-"]
  | 11 => ["*", "/", "//", "%", "@"]
  | _ => []

namespace Expr

/-- The text of an operand, in brackets if it binds less tightly. -/
def operandText (outer : Nat) (e : Expr) : Option String :=
  match e.text? with
  | .ok text => some (bracketed outer e.strength text)
  | .error _ => none

/-- The text of an operand, in brackets unless it binds more tightly. -/
def innerOperandText (outer : Nat) (e : Expr) : Option String :=
  operandText (outer + 1) e

/-- The text of an expression as it stands alone. -/
def plainText (e : Expr) : Option String :=
  operandText 0 e

/-- The texts of expressions between separators. -/
def textsBetween (separator : String) (texts : List (Option String)) : Option String :=
  (texts.mapM id).map (String.intercalate separator)

/-- An operator that groups to the left, between its operands. -/
def operation (span : Span) (strength : Nat) (op : String) (left right : Expr) : Expr :=
  .computed span strength do
    let l ← left.operandText strength
    let r ← right.innerOperandText strength
    some (l ++ " " ++ op ++ " " ++ r)

/-- A power, which groups to the right. -/
def power (span : Span) (base exponent : Expr) : Expr :=
  .computed span Strength.power do
    let l ← base.innerOperandText Strength.power
    let r ← exponent.operandText Strength.power
    some (l ++ "**" ++ r)

/-- Operands that are joined by one word. -/
def junction (span : Span) (strength : Nat) (word : String) (operands : List Expr) : Expr :=
  .computed span strength
    (textsBetween (" " ++ word ++ " ") (operands.map (operandText strength)))

/-- A chain of comparisons. -/
def comparison (span : Span) (first : Expr) (others : List (String × Expr)) : Expr :=
  .computed span Strength.comparison do
    let head ← first.operandText Strength.comparison
    let rest ← textsBetween " " (others.map fun (op, e) =>
      (e.innerOperandText Strength.comparison).map fun text => op ++ " " ++ text)
    some (head ++ " " ++ rest)

/-- A condition between its two alternatives. -/
def conditional (span : Span) (body test alternative : Expr) : Expr :=
  .computed span Strength.condition do
    let b ← body.innerOperandText Strength.condition
    let t ← test.innerOperandText Strength.condition
    let a ← alternative.operandText Strength.condition
    some (b ++ " if " ++ t ++ " else " ++ a)

/-- A function without a name, from the texts of its parameters. -/
def function (span : Span) (parameters : List (Option String)) (body : Expr) : Expr :=
  .computed span Strength.function do
    let head ← textsBetween ", " parameters
    let text ← body.plainText
    some (if head.isEmpty then "lambda: " ++ text else "lambda " ++ head ++ ": " ++ text)

/-- A wait for a value. -/
def wait (span : Span) (value : Expr) : Expr :=
  .computed span Strength.wait (value.plainText.map ("await " ++ ·))

/-- A value that is handed out, with the words before it. -/
def handedOut (span : Span) (words : String) (value : Option Expr) : Expr :=
  .computed span Strength.atom
    (match value with
    | none => some ("(" ++ words ++ ")")
    | some e => e.plainText.map fun text => "(" ++ words ++ " " ++ text ++ ")")

/-- A value that is named on the way. -/
def named (span : Span) (name : String) (value : Expr) : Expr :=
  .computed span Strength.atom (value.plainText.map fun text => name ++ " := " ++ text)

/-- A range of indices: its ends and, if it is given, its step. -/
def range (span : Span) (lower upper step : Option Expr) : Expr :=
  let textOf (e : Option Expr) : Option String := (e.map plainText).getD (some "")
  .computed span Strength.atom do
    let l ← textOf lower
    let u ← textOf upper
    match step with
    | none => some (l ++ ":" ++ u)
    | some e => e.plainText.map fun s => l ++ ":" ++ u ++ ":" ++ s

end Expr

/-- A clause of a comprehension: what runs over what, under which conditions. -/
structure Clause where
  isAsync : Bool
  target : Expr
  source : Expr
  conditions : List Expr

/-- The text of a clause. -/
def Clause.text (c : Clause) : Option String := do
  let target ← c.target.plainText
  let source ← c.source.plainText
  let conditions ← Expr.textsBetween "" (c.conditions.map fun e =>
    e.plainText.map (" if " ++ ·))
  some ((if c.isAsync then "async " else "") ++ "for " ++ target ++ " in " ++ source ++ conditions)

/-- A comprehension between brackets, from the text of its element. -/
def Expr.comprehension (span : Span) (opening closing : String) (element : Option String)
    (clauses : List Clause) : Expr :=
  .computed span Strength.atom do
    let e ← element
    let cs ← Expr.textsBetween " " (clauses.map Clause.text)
    some (opening ++ e ++ " " ++ cs ++ closing)

/-- The text of an entry of a table. -/
def entryText (key value : Expr) : Option String := do
  let k ← key.plainText
  let v ← value.plainText
  some (k ++ ": " ++ v)

end MarkerLint.Source
