import MarkerLint.Text.Utf8

/-!
# Faults

The reasons why an operation on loosely typed data has no answer. Metadata, registries and
configurations hold values of any kind, so a value may turn up where a table is needed, and an
integer may be too long to be written. Each reason is a cause; its wording is in one place.
-/

namespace MarkerLint

/-- The kinds of values. -/
inductive Kind where
  | null
  | boolean
  | integer
  | float
  | text
  | date
  | time
  | dateTime
  | list
  | table
deriving DecidableEq, Repr

/-- The name of a kind in messages. -/
def Kind.name : Kind → String
  | .null => "NoneType"
  | .boolean => "bool"
  | .integer => "int"
  | .float => "float"
  | .text => "str"
  | .date => "datetime.date"
  | .time => "datetime.time"
  | .dateTime => "datetime.datetime"
  | .list => "list"
  | .table => "dict"

/-- The name of a kind without the module that defines it. -/
def Kind.shortName : Kind → String
  | .date => "date"
  | .time => "time"
  | .dateTime => "datetime"
  | k => k.name

/-- What is asked of a table. -/
inductive TableUse where
  | get
  | items
  | values
deriving DecidableEq, Repr

/-- The name of a use in messages. -/
def TableUse.name : TableUse → String
  | .get => "get"
  | .items => "items"
  | .values => "values"

/-- Why an operation has no answer. -/
inductive Fault where
  /-- A value of this kind was used as a table. -/
  | notATable (found : Kind) (use : TableUse)
  /-- A value of this kind was gone through element by element. -/
  | notIterable (found : Kind)
  /-- A value of this kind was looked up in a set. -/
  | unhashable (found : Kind)
  /-- An integer has more digits than may be written. -/
  | tooManyDigits
  /-- A text with this many digits is longer than an integer may be read from. -/
  | tooManyDigitsToRead (digits : Nat)
  /-- A text, here in quotation marks, is no integer. -/
  | notAnInteger (quoted : String)
  /-- Bytes that should be text are not. -/
  | undecodable (refusal : Text.Utf8.Refusal)
  /-- No service has been registered under this key. -/
  | unregistered (key : String)
  /-- A value of this kind was registered in place of the configuration. -/
  | notAConfiguration (found : Kind)
deriving DecidableEq, Repr

/-- The longest integer that is written or read in decimal, in digits. -/
def digitLimit : Nat := 4300

/-- A byte as messages show it. -/
def byteText (b : UInt8) : String :=
  String.ofList ['0', 'x', Nat.digitChar (b.toNat / 16), Nat.digitChar (b.toNat % 16)]

/-- The wording of a refusal to read bytes as text. -/
def undecodableText (r : Text.Utf8.Refusal) : String :=
  if r.length ≤ 1 then
    s!"'utf-8' codec can't decode byte {byteText r.byte} in position {r.position}: {r.cause.text}"
  else
    let last := r.position + r.length - 1
    s!"'utf-8' codec can't decode bytes in position {r.position}-{last}: {r.cause.text}"

/-- The wording of a fault. -/
def Fault.message : Fault → String
  | .notATable found use => s!"'{found.name}' object has no attribute '{use.name}'"
  | .notIterable found => s!"'{found.name}' object is not iterable"
  | .unhashable found => s!"unhashable type: '{found.name}'"
  | .tooManyDigits =>
      s!"Exceeds the limit ({digitLimit} digits) for integer string conversion; "
        ++ "use sys.set_int_max_str_digits() to increase the limit"
  | .tooManyDigitsToRead digits =>
      s!"Exceeds the limit ({digitLimit} digits) for integer string conversion: "
        ++ s!"value has {digits} digits; use sys.set_int_max_str_digits() to increase the limit"
  | .notAnInteger quoted => s!"invalid literal for int() with base 10: {quoted}"
  | .undecodable refusal => undecodableText refusal
  | .unregistered key => s!"Dependency '{key}' not registered."
  | .notAConfiguration found => s!"'{found.name}' object has no attribute 'config'"

section Answers

variable {ε α β : Type}

@[simp] theorem ok_bind (a : α) (f : α → Except ε β) : (Except.ok a >>= f) = f a := rfl

@[simp] theorem map_ok (a : α) (f : α → β) : f <$> (Except.ok a : Except ε α) = .ok (f a) := rfl

/-- Steps in a row have an answer if each of them has one. -/
theorem bind_eq_ok_iff {x : Except ε α} {f : α → Except ε β} {b : β} :
    x >>= f = .ok b ↔ ∃ a, x = .ok a ∧ f a = .ok b := by
  cases x with
  | error e => simp [bind, Except.bind]
  | ok a => simp

/-- Steps in a row have no answer if the first has none, or the second one after it. -/
theorem bind_eq_error_iff {x : Except ε α} {f : α → Except ε β} {e : ε} :
    x >>= f = .error e ↔ x = .error e ∨ ∃ a, x = .ok a ∧ f a = .error e := by
  cases x with
  | error e => simp [bind, Except.bind]
  | ok a => simp

theorem map_eq_ok_iff {x : Except ε α} {f : α → β} {b : β} :
    f <$> x = .ok b ↔ ∃ a, x = .ok a ∧ f a = b := by
  cases x with
  | error e => simp [Functor.map, Except.map]
  | ok a => simp

theorem map_eq_error_iff {x : Except ε α} {f : α → β} {e : ε} :
    f <$> x = .error e ↔ x = .error e := by
  cases x <;> simp [Functor.map, Except.map]

end Answers

end MarkerLint
