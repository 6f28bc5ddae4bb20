import MarkerLint.Number.Shortest
import MarkerLint.Source.Tree
import MarkerLint.Text.Search

/-!
# The text of an expression

Names and attributes stand in metadata as the text they would be written with. The text is built
from the tree alone: one space after each comma, and brackets around an operand that binds less
tightly than its surroundings.
-/

namespace MarkerLint.Source

/-- Why an expression has no text. -/
inductive Unwritable where
  /-- It holds a name whose text is lost. -/
  | malformedName
  /-- It holds an integer beyond the digit limit. -/
  | longInteger
deriving DecidableEq, Repr

namespace Strength

/-- How tightly a bare negation of truth binds. -/
def negation : Nat := 4

/-- How tightly a sign binds. -/
def sign : Nat := 12

/-- How tightly names, calls and bracketed expressions bind: more than anything else. -/
def atom : Nat := 15

end Strength

/-- How tightly an expression binds. -/
def Expr.strength : Expr → Nat
  | .unary _ op _ => if op = "not" then Strength.negation else Strength.sign
  | .computed _ strength _ => strength
  | _ => Strength.atom

/-- The text, in brackets if it binds less tightly than its surroundings. -/
def bracketed (outer inner : Nat) (text : String) : String :=
  if outer > inner then "(" ++ text ++ ")" else text

/-- The letter of an imaginary number. -/
def imaginaryText (x : Binary64) : String :=
  Shortest.textIn ⟨-3, 16, false⟩ x ++ "j"

/-- The text of a constant. -/
def Constant.text? : Constant → Except Unwritable String
  | .null => .ok "None"
  | .boolean b => .ok (if b then "True" else "False")
  | .text s => .ok (String.ofList (Text.Quoted.encode .visible s))
  | .integer i => (Decimal.text? i).mapError fun _ => .longInteger
  | .float x => .ok (Shortest.text x)
  | .imaginary x => .ok (imaginaryText x)
  | .bytes b => .ok (String.ofList (Text.Quoted.encodeBytes b))
  | .ellipsis => .ok "..."

/-- The expression before a point. A text of digits alone would be read on as a number. -/
def beforePoint (text : String) : String :=
  if !text.isEmpty && text.toList.all Text.isDigit then "(" ++ text ++ ")" else text

/-- The text of a sequence from those of its items. -/
def sequenceText (kind : SequenceKind) (items : List String) : String :=
  let inner := String.intercalate ", " items
  match kind, items with
  | .list, _ => "[" ++ inner ++ "]"
  | .set, _ => "\x7b" ++ inner ++ "\x7d"
  | .tuple, [item] => "(" ++ item ++ ", )"
  | .tuple, _ => "(" ++ inner ++ ")"

/-- A constant part of a text with embedded expressions: braces are written twice. -/
def constantPartText (s : CodeText) : List Char :=
  let quoted := Text.Quoted.encode .visible s
  ((quoted.drop 1).dropLast).flatMap fun c => if c == '\x7b' || c == '\x7d' then [c, c] else [c]

/-- A text with embedded expressions between the first quotation marks that do not occur in it. -/
def joinedText (inner : List Char) : List Char :=
  let marks := [['\''], ['"'], ['\'', '\'', '\'']]
  let mark := (marks.find? fun m => !Text.occursIn m inner).getD ['"', '"', '"']
  'f' :: mark ++ inner ++ mark

mutual

/-- The text of an expression. -/
def Expr.text? : Expr → Except Unwritable String
  | .name _ id => .ok id
  | .malformed _ => .error .malformedName
  | .attribute _ base attr => do
      let left ← base.text?
      .ok (beforePoint (bracketed Strength.atom base.strength left) ++ "." ++ attr)
  | .call _ callee args keywords => do
      let head ← callee.text?
      let parts ← textsOf args
      let named ← keywordTexts keywords
      .ok (bracketed Strength.atom callee.strength head
        ++ "(" ++ String.intercalate ", " (parts ++ named) ++ ")")
  | .constant _ c => c.text?
  | .unary _ op operand => do
      let text ← operand.text?
      let outer := if op = "not" then Strength.negation else Strength.sign
      .ok ((if op = "not" then "not " else op) ++ bracketed outer operand.strength text)
  | .sequence _ kind items => do
      let parts ← textsOf items
      .ok (sequenceText kind parts)
  | .dict _ entries => do
      let parts ← entryTexts entries
      .ok ("\x7b" ++ String.intercalate ", " parts ++ "\x7d")
  | .joined _ parts => do
      let texts ← partTexts parts
      .ok (String.ofList (joinedText texts.flatten))
  | .embedded _ value format => do
      let text ← value.text?
      .ok ("\x7b" ++ text ++ format ++ "\x7d")
  | .subscript _ value index => do
      let i ← index.text?
      let v ← value.text?
      let inner := match index with
        | .sequence _ .tuple (_ :: _) => String.ofList (i.toList.drop 1).dropLast
        | _ => i
      .ok (bracketed Strength.atom value.strength v ++ "[" ++ inner ++ "]")
  | .starred _ value => do
      let text ← value.text?
      .ok ("*" ++ text)
  | .computed _ _ (some text) => .ok text
  | .computed _ _ none => .error .longInteger

/-- The texts of expressions in order. -/
def textsOf : List Expr → Except Unwritable (List String)
  | [] => .ok []
  | e :: rest => do
      let text ← e.text?
      let texts ← textsOf rest
      .ok (text :: texts)

/-- The texts of keyword arguments in order. -/
def keywordTexts : List (Option String × Expr) → Except Unwritable (List String)
  | [] => .ok []
  | (name, e) :: rest => do
      let text ← e.text?
      let texts ← keywordTexts rest
      match name with
      | some name => .ok ((name ++ "=" ++ text) :: texts)
      | none => .ok (("**" ++ text) :: texts)

/-- The texts of the entries of a table in order. -/
def entryTexts : List (Option Expr × Expr) → Except Unwritable (List String)
  | [] => .ok []
  | (some key, value) :: rest => do
      let k ← key.text?
      let v ← value.text?
      let texts ← entryTexts rest
      .ok ((k ++ ": " ++ v) :: texts)
  | (none, value) :: rest => do
      let v ← value.text?
      let texts ← entryTexts rest
      .ok (("**" ++ v) :: texts)

/-- The parts of a text with embedded expressions. -/
def partTexts : List Expr → Except Unwritable (List (List Char))
  | [] => .ok []
  | .constant _ (.text s) :: rest => do
      let texts ← partTexts rest
      .ok (constantPartText s :: texts)
  | e :: rest => do
      let text ← e.text?
      let texts ← partTexts rest
      .ok (text.toList :: texts)

end

end MarkerLint.Source
