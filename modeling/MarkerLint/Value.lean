import MarkerLint.Fault
import MarkerLint.Moment
import MarkerLint.Number.Binary64
import MarkerLint.Table
import MarkerLint.Text.Quoted

/-!
# Values

The data that markers, registries and configurations hold, with lists and tables nested to any
depth. The values of documents have strings for texts, and may hold moments in time. Metadata is
read from the constants of a source, where a text may be any sequence of code points and there are
no moments.
-/

namespace MarkerLint

/-- A value with texts from `τ` and moments from `μ`. -/
inductive Data (τ μ : Type) where
  | null
  | boolean (b : Bool)
  | text (s : τ)
  | integer (i : Int)
  | float (x : Binary64)
  | moment (m : μ)
  | list (items : List (Data τ μ))
  | table (entries : List (τ × Data τ μ))
deriving Inhabited

/-- A value of a document. -/
abbrev Value := Data String Moment

/-- A value of metadata. -/
abbrev Datum := Data CodeText Empty

/-- What is asked of texts. -/
class TextLike (τ : Type) where
  isEmpty : τ → Bool
  /-- A string as such a text. -/
  ofString : String → τ
  /-- A text between quotation marks. -/
  quoted : Text.Quoted.Repertoire → τ → String

instance : TextLike String where
  isEmpty := String.isEmpty
  ofString s := s
  quoted r s := String.ofList (Text.Quoted.encode r s)

instance : TextLike CodeText where
  isEmpty := List.isEmpty
  ofString := CodeText.ofString
  quoted r t := String.ofList (Text.Quoted.encode r t)

@[simp] theorem TextLike.isEmpty_string (s : String) : TextLike.isEmpty s = s.isEmpty := rfl

@[simp] theorem TextLike.isEmpty_codeText (t : CodeText) :
    TextLike.isEmpty t = List.isEmpty t := rfl

/-- What is asked of moments: which they are. -/
class MomentLike (μ : Type) where
  toMoment : μ → Moment

instance : MomentLike Moment := ⟨id⟩

instance : MomentLike Empty := ⟨Empty.elim⟩

/-- The kind of a moment. -/
def Moment.kind : Moment → Kind
  | .date _ => .date
  | .time _ => .time
  | .dateTime .. => .dateTime

namespace Data

variable {τ μ : Type} [TextLike τ] [MomentLike μ]

/-- The kind of a value. -/
def kind : Data τ μ → Kind
  | .null => .null
  | .boolean _ => .boolean
  | .text _ => .text
  | .integer _ => .integer
  | .float _ => .float
  | .moment m => (MomentLike.toMoment m).kind
  | .list _ => .list
  | .table _ => .table

/-- The value counts as given: it is neither null nor false, zero or empty. -/
def isGiven : Data τ μ → Bool
  | .null => false
  | .boolean b => b
  | .text s => !TextLike.isEmpty s
  | .integer i => i != 0
  | .float x => !x.isZero
  | .moment _ => true
  | .list items => !items.isEmpty
  | .table entries => !entries.isEmpty

/-- The value says nothing: it is null, false, an empty text or a zero. An empty list or table says
something. -/
def isBlank : Data τ μ → Bool
  | .null => true
  | .boolean b => !b
  | .text s => TextLike.isEmpty s
  | .integer i => i == 0
  | .float x => x.isZero
  | .moment _ => false
  | .list _ => false
  | .table _ => false

/-- The text that the value is. -/
def text? : Data τ μ → Option τ
  | .text s => some s
  | _ => none

/-- The items of the list that the value is. -/
def items? : Data τ μ → Option (List (Data τ μ))
  | .list items => some items
  | _ => none

/-- The entries of the table that the value is. -/
def entries? : Data τ μ → Option (Table (Data τ μ) τ)
  | .table entries => some entries
  | _ => none

/-- The value is exactly this text. -/
def isText [DecidableEq τ] (v : Data τ μ) (s : τ) : Bool :=
  match v with
  | .text t => t == s
  | _ => false

/-- The entries of a value that is used as a table. -/
def asTable (use : TableUse) : Data τ μ → Except Fault (Table (Data τ μ) τ)
  | .table entries => .ok entries
  | v => .error (.notATable v.kind use)

/-- The entry under a key of a value that is used as a table. -/
def get? [DecidableEq τ] (v : Data τ μ) (key : τ) : Except Fault (Option (Data τ μ)) :=
  (Table.get? key) <$> v.asTable .get

/-- The value may be looked up in a set. -/
def isHashable : Data τ μ → Bool
  | .list _ => false
  | .table _ => false
  | _ => true

/-- The value, if it is there and counts as given. -/
def given? (v : Option (Data τ μ)) : Option (Data τ μ) :=
  v.filter isGiven

end Data

theorem Data.text?_eq_some_iff {τ μ : Type} {v : Data τ μ} {s : τ} :
    v.text? = some s ↔ v = .text s := by
  cases v <;> simp [text?]

/-- The string that a value of metadata is. -/
def Data.string? (v : Datum) : Option String :=
  v.text?.bind CodeText.string?

theorem Data.string?_eq_some_iff {v : Datum} {s : String} : v.string? = some s ↔ v = .text s := by
  rw [string?, Option.bind_eq_some_iff]
  constructor
  · rintro ⟨t, ht, hs⟩
    rw [text?_eq_some_iff.mp ht, CodeText.string?_eq_some_iff.mp hs]
  · rintro rfl
    exact ⟨s, rfl, CodeText.string?_ofString s⟩

end MarkerLint
