import MarkerLint.Fault
import MarkerLint.Table
import MarkerLint.Text.Quoted

/-!
# Message templates

A template is text with directives. A directive starts with a percent sign and may name a field in
brackets, set a width and a precision, and ends with a letter that says how its argument is written.
Filling is all or nothing: it ends with an exception at the first directive that cannot be filled.
Every exception but one is caught and leaves the template as it stands; the exception is a directive
that asks for more blanks than there is room for, which takes a width.
-/

namespace MarkerLint.Template

/-- The classes of exceptions that the filling of a template ends with. -/
inductive ExceptionClass where
  | keyError
  | typeError
  | valueError
  | memoryError
deriving DecidableEq, Repr

/-- The exceptions that are caught where a template is filled; a lack of memory is not among
them. -/
def ExceptionClass.isCaught : ExceptionClass → Bool
  | .keyError => true
  | .typeError => true
  | .valueError => true
  | .memoryError => false

/-- Why a template is not filled. -/
inductive Refusal where
  /-- There is no text for a field. -/
  | missingField (name : String)
  /-- The template ends inside a directive. -/
  | unfinished
  /-- A width or a precision is to be taken from an argument. -/
  | starred
  /-- A width or a precision is beyond its limit. -/
  | beyondLimit
  /-- There is no argument left. -/
  | usedUp
  /-- Arguments of this kind are not written under this letter. -/
  | unwritable (letter : Char)
  /-- No directive has this letter. -/
  | unknownLetter (letter : Char)
  /-- There is no room for so many characters. -/
  | noRoom (width : Nat)
deriving DecidableEq, Repr

/-- The class of the exception that a refusal is raised as. -/
def Refusal.exception : Refusal → ExceptionClass
  | .missingField _ => .keyError
  | .unfinished => .valueError
  | .starred => .typeError
  | .beyondLimit => .valueError
  | .usedUp => .typeError
  | .unwritable _ => .typeError
  | .unknownLetter _ => .valueError
  | .noRoom _ => .memoryError

/-- A directive. -/
structure Directive where
  /-- The field that the argument is taken from. -/
  field : Option String
  /-- The argument stands at the left of its width. -/
  leftAligned : Bool
  width : Nat
  precision : Option Nat
  /-- The letter at the end. -/
  letter : Char
deriving DecidableEq, Repr

/-- The name of a field and the rest after the bracket that closes it. Brackets inside a name come
in pairs; `depth` counts the open ones. -/
def fieldName? (depth : Nat) : List Char → Option (List Char × List Char)
  | [] => none
  | ')' :: rest =>
      match depth with
      | 0 => some ([], rest)
      | d + 1 => (fieldName? d rest).map fun (name, rest) => (')' :: name, rest)
  | '(' :: rest => (fieldName? (depth + 1) rest).map fun (name, rest) => ('(' :: name, rest)
  | c :: rest => (fieldName? depth rest).map fun (name, rest) => (c :: name, rest)

/-- The field that a directive begins with, if it has one, and the rest of the text. -/
def field : List Char → Except Refusal (Option String × List Char)
  | '(' :: cs =>
      match fieldName? 0 cs with
      | none => .error .unfinished
      | some (name, rest) => .ok (some (String.ofList name), rest)
  | cs => .ok (none, cs)

/-- The characters between the name of a field and its width. -/
def isFlag (c : Char) : Bool :=
  c == '-' || c == '+' || c == ' ' || c == '#' || c == '0'

/-- The number that the digits at the start of a text write, zero if there are none. -/
def leadingNumber (cs : List Char) : Nat :=
  (cs.takeWhile Text.isAsciiDigit).foldl (fun n c => n * 10 + (c.toNat - '0'.toNat)) 0

/-- A number up to a limit at the start of a text, and the rest. No argument is an integer, so a
star in the place of the number cannot be followed. -/
def number (limit : Nat) (cs : List Char) : Except Refusal (Nat × List Char) :=
  match cs with
  | '*' :: _ => .error .starred
  | _ =>
      if leadingNumber cs ≤ limit then .ok (leadingNumber cs, cs.dropWhile Text.isAsciiDigit)
      else .error .beyondLimit

/-- The greatest width of a directive. -/
def widthLimit : Nat := 9223372036854775807

/-- The greatest precision of a directive. -/
def precisionLimit : Nat := 2147483647

/-- The precision at the start of a text and the rest. -/
def precision (cs : List Char) : Except Refusal (Option Nat × List Char) :=
  match cs with
  | '.' :: rest => (fun (n, rest) => (some n, rest)) <$> number precisionLimit rest
  | _ => .ok (none, cs)

/-- The text after a letter for the size of numbers, which says nothing here. -/
def afterSize (cs : List Char) : List Char :=
  match cs with
  | c :: rest => if c == 'h' || c == 'l' || c == 'L' then rest else c :: rest
  | [] => []

/-- The directive after its field, and the rest of the text. -/
def directiveAfterField (field : Option String) (cs : List Char) :
    Except Refusal (Directive × List Char) := do
  let (width, rest) ← number widthLimit (cs.dropWhile isFlag)
  let (precision, rest) ← precision rest
  match afterSize rest with
  | [] => .error .unfinished
  | letter :: rest =>
      .ok (⟨field, (cs.takeWhile isFlag).contains '-', width, precision, letter⟩, rest)

/-- The directive after a percent sign, and the rest of the text. -/
def directive (cs : List Char) : Except Refusal (Directive × List Char) := do
  let (field, rest) ← field cs
  directiveAfterField field rest

theorem fieldName?_length {depth : Nat} {cs name rest : List Char}
    (h : fieldName? depth cs = some (name, rest)) : rest.length ≤ cs.length := by
  fun_induction fieldName? depth cs generalizing name rest with
  | case1 => simp at h
  | case2 => simp_all
  | case3 cs d ih =>
      obtain ⟨⟨n, r⟩, hr, he⟩ := Option.map_eq_some_iff.1 h
      simp only [Prod.mk.injEq] at he
      have := ih hr
      rw [← he.2, List.length_cons]
      omega
  | case4 depth cs ih =>
      obtain ⟨⟨n, r⟩, hr, he⟩ := Option.map_eq_some_iff.1 h
      simp only [Prod.mk.injEq] at he
      have := ih hr
      rw [← he.2, List.length_cons]
      omega
  | case5 depth c cs _ _ ih =>
      obtain ⟨⟨n, r⟩, hr, he⟩ := Option.map_eq_some_iff.1 h
      simp only [Prod.mk.injEq] at he
      have := ih hr
      rw [← he.2, List.length_cons]
      omega

theorem length_dropWhile_le {α : Type} (p : α → Bool) (l : List α) :
    (l.dropWhile p).length ≤ l.length :=
  (List.dropWhile_sublist p).length_le

theorem field_length {cs rest : List Char} {f : Option String} (h : field cs = .ok (f, rest)) :
    rest.length ≤ cs.length := by
  unfold field at h
  split at h
  · next cs =>
      split at h
      · cases h
      · next name r heq =>
          cases h
          have := fieldName?_length heq
          rw [List.length_cons]
          omega
  · cases h
    exact Nat.le_refl _

theorem number_length {limit n : Nat} {cs rest : List Char} (h : number limit cs = .ok (n, rest)) :
    rest.length ≤ cs.length := by
  unfold number at h
  split at h
  · cases h
  · split at h
    · cases h
      exact length_dropWhile_le _ _
    · cases h

theorem precision_length {cs rest : List Char} {p : Option Nat}
    (h : precision cs = .ok (p, rest)) : rest.length ≤ cs.length := by
  unfold precision at h
  split at h
  · obtain ⟨⟨n, r⟩, hnumber, he⟩ := map_eq_ok_iff.mp h
    cases he
    have := number_length hnumber
    rw [List.length_cons]
    omega
  · cases h
    exact Nat.le_refl _

theorem afterSize_length (cs : List Char) : (afterSize cs).length ≤ cs.length := by
  unfold afterSize
  split
  · split <;> simp
  · simp

theorem directiveAfterField_length {f : Option String} {cs rest : List Char} {d : Directive}
    (h : directiveAfterField f cs = .ok (d, rest)) : rest.length < cs.length := by
  obtain ⟨⟨width, afterWidth⟩, hwidth, h⟩ := bind_eq_ok_iff.mp h
  obtain ⟨⟨p, afterPrecision⟩, hprecision, h⟩ := bind_eq_ok_iff.mp h
  have hflags := length_dropWhile_le isFlag cs
  have hnumber := number_length hwidth
  have hafter := precision_length hprecision
  have hsize := afterSize_length afterPrecision
  simp only at h hprecision
  split at h
  · cases h
  · next letter r heq =>
      cases h
      rw [heq, List.length_cons] at hsize
      omega

theorem directive_length {cs rest : List Char} {d : Directive}
    (h : directive cs = .ok (d, rest)) : rest.length < cs.length := by
  obtain ⟨⟨f, afterField⟩, hfield, h⟩ := bind_eq_ok_iff.mp h
  have hle := field_length hfield
  have hlt := directiveAfterField_length h
  omega

/-- What the next directive without a field would write. -/
inductive Argument where
  /-- The whole table of fields. -/
  | fields
  /-- The text of a field. -/
  | text (s : CodeText)
  /-- Nothing: the argument has been written. -/
  | used
deriving DecidableEq, Repr

/-- The text of a table of fields. -/
def fieldsText (r : Text.Quoted.Repertoire) (data : Table CodeText) : List Char :=
  let parts := data.map fun e =>
    String.ofList (Text.Quoted.encode r e.1 ++ [':', ' '] ++ Text.Quoted.encode r e.2)
  '\x7b' :: (String.intercalate ", " parts).toList ++ ['\x7d']

/-- The letters of directives that write numbers. -/
def isNumberLetter (letter : Char) : Bool :=
  ['d', 'i', 'u', 'o', 'x', 'X', 'e', 'E', 'f', 'F', 'g', 'G'].contains letter

/-- The text that an argument is written as under a letter. -/
def written (data : Table CodeText) (letter : Char) : Argument → Except Refusal CodeText
  | .used => .error .usedUp
  | .fields =>
      if letter == 's' || letter == 'r' then .ok ((fieldsText .visible data).map .char)
      else if letter == 'a' then .ok ((fieldsText .ascii data).map .char)
      else if letter == 'c' || isNumberLetter letter then .error (.unwritable letter)
      else .error (.unknownLetter letter)
  | .text s =>
      if letter == 's' then .ok s
      else if letter == 'r' then .ok ((Text.Quoted.encode .visible s).map .char)
      else if letter == 'a' then .ok ((Text.Quoted.encode .ascii s).map .char)
      else if letter == 'c' && s.length == 1 then .ok s
      else if letter == 'c' || isNumberLetter letter then .error (.unwritable letter)
      else .error (.unknownLetter letter)

/-- Cuts to the precision, unless a single code point is written, and fills up to the width. -/
def laidOut (d : Directive) (text : CodeText) : CodeText :=
  let cut := match d.precision with
    | some p => if d.letter == 'c' then text else text.take p
    | none => text
  let padding := List.replicate (d.width - cut.length) (.char ' ')
  if d.leftAligned then cut ++ padding else padding ++ cut

/-- The argument of a directive, given what one without a field would write. -/
def argumentOf (data : Table CodeText) (argument : Argument) :
    Option String → Except Refusal Argument
  | none => .ok argument
  | some name =>
      match data.get? name with
      | none => .error (.missingField name)
      | some s => .ok (.text s)

/-- What the directive after a percent sign writes, and the rest of the text. The text of its field
is looked up before the rest of it is read, and its argument is written before it is laid out. -/
def fillDirective (room : Nat) (data : Table CodeText) (argument : Argument) (cs : List Char) :
    Except Refusal (CodeText × List Char) := do
  let (field, rest) ← field cs
  let argument ← argumentOf data argument field
  let (d, rest) ← directiveAfterField field rest
  let text ← written data d.letter argument
  if d.width ≤ room then .ok (laidOut d text, rest) else .error (.noRoom d.width)

theorem fillDirective_length {room : Nat} {data : Table CodeText} {argument : Argument}
    {cs rest : List Char} {text : CodeText}
    (h : fillDirective room data argument cs = .ok (text, rest)) : rest.length < cs.length := by
  obtain ⟨⟨f, afterField⟩, hfield, h⟩ := bind_eq_ok_iff.mp h
  obtain ⟨a, -, h⟩ := bind_eq_ok_iff.mp h
  obtain ⟨⟨d, afterDirective⟩, hdirective, h⟩ := bind_eq_ok_iff.mp h
  obtain ⟨written, -, h⟩ := bind_eq_ok_iff.mp h
  have hle := field_length hfield
  have hlt := directiveAfterField_length hdirective
  split at h
  · cases h
    omega
  · cases h

/-- Fills a template whose beginning has been written, where there is room for directives of some
width. -/
def fillFrom (room : Nat) (data : Table CodeText) (argument : Argument) :
    List Char → Except Refusal CodeText
  | [] => .ok []
  | '%' :: '%' :: rest => (.char '%' :: ·) <$> fillFrom room data argument rest
  | '%' :: cs =>
      match h : fillDirective room data argument cs with
      | .error e => .error e
      | .ok (text, rest) =>
          have := fillDirective_length h
          (text ++ ·) <$> fillFrom room data .used rest
  | c :: rest => (.char c :: ·) <$> fillFrom room data argument rest
termination_by cs => cs.length

/-- The template filled where there is room for directives of some width. Where an exception is
caught, the template is given back as it stands; any other is passed on. -/
def fillWithin (room : Nat) (template : String) (data : Table CodeText) : Except Refusal CodeText :=
  match fillFrom room data .fields template.toList with
  | .ok text => .ok text
  | .error e => if e.exception.isCaught then .ok template else .error e

/-- The template with its directives filled, if all of them can be, where there is room for every
width that a directive may have. -/
def fill? (template : String) (data : Table CodeText) : Option CodeText :=
  (fillFrom widthLimit data .fields template.toList).toOption

/-- The template with its directives filled, or as it stands if one of them cannot be. -/
def fill (template : String) (data : Table CodeText) : CodeText :=
  (fill? template data).getD template

end MarkerLint.Template
