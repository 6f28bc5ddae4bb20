import MarkerLint.Number.Shortest
import MarkerLint.Value

/-!
# Values as text

The text of a value in messages. A text stands for itself at the top and in quotation marks inside a
list or a table. The only value without a text is one that holds an integer beyond the digit limit.
-/

namespace MarkerLint.Data

variable {τ μ : Type} [TextLike τ] [MomentLike μ]

mutual

/-- The text of a value inside another. -/
def quoted (r : Text.Quoted.Repertoire) : Data τ μ → Except Fault String
  | .null => .ok "None"
  | .boolean b => .ok (if b then "True" else "False")
  | .text s => .ok (TextLike.quoted r s)
  | .integer i => Decimal.text? i
  | .float x => .ok (Shortest.text x)
  | .moment m => .ok (MomentLike.toMoment m).call
  | .list items => do
      let parts ← quotedItems r items
      .ok ("[" ++ String.intercalate ", " parts ++ "]")
  | .table entries => do
      let parts ← quotedEntries r entries
      .ok ("\x7b" ++ String.intercalate ", " parts ++ "\x7d")

/-- The texts of the items of a list. -/
def quotedItems (r : Text.Quoted.Repertoire) : List (Data τ μ) → Except Fault (List String)
  | [] => .ok []
  | v :: rest => do
      let part ← quoted r v
      let parts ← quotedItems r rest
      .ok (part :: parts)

/-- The texts of the entries of a table: the key in quotation marks, a colon and the value. -/
def quotedEntries (r : Text.Quoted.Repertoire) :
    List (τ × Data τ μ) → Except Fault (List String)
  | [] => .ok []
  | (k, v) :: rest => do
      let part ← quoted r v
      let parts ← quotedEntries r rest
      .ok ((TextLike.quoted r k ++ ": " ++ part) :: parts)

end

/-- The text of a value in a message. -/
def display : Data τ μ → Except Fault τ
  | .text s => .ok s
  | .moment m => .ok (TextLike.ofString (MomentLike.toMoment m).text)
  | v => TextLike.ofString <$> quoted .visible v

/-- The text of a name: a name that is not given reads as unknown. -/
def displayName (name : Data τ μ) : Except Fault τ :=
  if name.isGiven then name.display else .ok (TextLike.ofString "Unknown")

/-- The text of an amount: a whole floating-point number is written as an integer. -/
def amountText : Data τ μ → Except Fault τ
  | .float x =>
      match x.toInt? with
      | some i => TextLike.ofString <$> Decimal.text? i
      | none => .ok (TextLike.ofString (Shortest.text x))
  | v => v.display

end MarkerLint.Data
