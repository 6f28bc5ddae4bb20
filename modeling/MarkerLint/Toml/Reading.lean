import MarkerLint.Text.Utf8
import MarkerLint.Toml.Numbers
import MarkerLint.Toml.Strings
import MarkerLint.Toml.Tree

/-!
# Reading configuration files

The statements of a document in order, up to the first one that is malformed, and the tables that
they build. Values nest, so their reader takes an amount of fuel; every nested value is shorter than
the one around it, and the length of the text is enough.
-/

namespace MarkerLint.Toml

/-- A reading without a reason for its failure. -/
def ofRead {α : Type} : Read α → Except Failure (α × List Char)
  | some r => .ok r
  | none => .error .malformed

/-- The text without the blanks at its beginning. -/
def skipGaps (cs : List Char) : List Char :=
  cs.dropWhile isGap

/-- A comment up to the end of its line, if there is one. -/
def skipComment : List Char → Except Failure (List Char)
  | '#' :: rest =>
      let (comment, rest) := rest.span (· != '\n')
      if comment.any (isIllegal false) then .error .malformed else .ok rest
  | cs => .ok cs

/-- Blanks, line ends and comments between the values of a list. -/
def skipLines (inComment : Bool) : List Char → Except Failure (List Char)
  | [] => .ok []
  | c :: rest =>
      if c == '\n' then skipLines false rest
      else if inComment then
        if isIllegal false c then .error .malformed else skipLines true rest
      else if isGap c then skipLines false rest
      else if c == '#' then skipLines true rest
      else .ok (c :: rest)

/-- A character of a key that stands without marks. -/
def isBareKeyChar (c : Char) : Bool :=
  Text.isAsciiLetter c || Text.isAsciiDigit c || c == '-' || c == '_'

/-- One part of a key. -/
def keyPart (cs : List Char) : Except Failure (String × List Char) :=
  match cs.span isBareKeyChar with
  | ([], '\'' :: rest) => ofRead ((literalLine rest).map fun (k, rest) => (String.ofList k, rest))
  | ([], '"' :: rest) =>
      ofRead ((basicFrom false .plain rest).map fun (k, rest) => (String.ofList k, rest))
  | ([], _) => .error .malformed
  | (k, rest) => .ok (String.ofList k, rest)

/-- A dotted key. -/
def key : Nat → List Char → Except Failure (List String × List Char)
  | 0, _ => .error .malformed
  | fuel + 1, cs => do
      let (k, cs) ← keyPart cs
      match skipGaps cs with
      | '.' :: rest => do
          let (ks, rest) ← key fuel (skipGaps rest)
          .ok (k :: ks, rest)
      | cs => .ok ([k], cs)

/-- A value that does not nest. -/
def simpleValue (cs : List Char) : Except Failure (Value × List Char) :=
  match text? cs with
  | some r => ofRead (r.map fun (s, rest) => (.text s, rest))
  | none =>
      match cs with
      | 't' :: 'r' :: 'u' :: 'e' :: rest => .ok (.boolean true, rest)
      | 'f' :: 'a' :: 'l' :: 's' :: 'e' :: rest => .ok (.boolean false, rest)
      | _ =>
          match date? cs with
          | some r => r
          | none =>
              match time? cs with
              | some r => .ok r
              | none => (number? cs).getD (.error .malformed)

mutual

/-- A value. -/
def value : Nat → List Char → Except Failure (Value × List Char)
  | 0, _ => .error .malformed
  | fuel + 1, cs =>
      match cs with
      | '[' :: rest => do
          let (items, rest) ← items fuel rest
          .ok (.list items, rest)
      | '\x7b' :: rest =>
          match skipGaps rest with
          | '\x7d' :: rest => .ok (.table [], rest)
          | rest => do
              let (entries, rest) ← entries fuel rest
              match inlineTable entries with
              | some t => .ok (.table t, rest)
              | none => .error .malformed
      | _ => simpleValue cs

/-- The items of a list after its opening bracket or after a comma. -/
def items : Nat → List Char → Except Failure (List Value × List Char)
  | 0, _ => .error .malformed
  | fuel + 1, cs => do
      match ← skipLines false cs with
      | ']' :: rest => .ok ([], rest)
      | cs => do
          let (v, cs) ← value fuel cs
          match ← skipLines false cs with
          | ']' :: rest => .ok ([v], rest)
          | ',' :: rest => do
              let (vs, rest) ← items fuel rest
              .ok (v :: vs, rest)
          | _ => .error .malformed

/-- The entries of a table between brackets, which stand on one line without a comma at the end. -/
def entries : Nat → List Char → Except Failure (List (List String × Value) × List Char)
  | 0, _ => .error .malformed
  | fuel + 1, cs => do
      let (e, cs) ← entry fuel cs
      match skipGaps cs with
      | '\x7d' :: rest => .ok ([e], rest)
      | ',' :: rest => do
          let (es, rest) ← entries fuel (skipGaps rest)
          .ok (e :: es, rest)
      | _ => .error .malformed

/-- An entry: a key, an equals sign and a value. -/
def entry : Nat → List Char → Except Failure ((List String × Value) × List Char)
  | 0, _ => .error .malformed
  | fuel + 1, cs => do
      let (k, cs) ← key (fuel + 1) cs
      match cs with
      | '=' :: rest => do
          let (v, rest) ← value fuel (skipGaps rest)
          .ok ((k, v), rest)
      | _ => .error .malformed

end

/-- The rest after closing brackets. -/
def closing (count : Nat) (cs : List Char) : Except Failure (List Char) :=
  if (cs.take count) == List.replicate count ']' then .ok (cs.drop count) else .error .malformed

/-- A statement, if the line holds one. -/
def statement (fuel : Nat) (cs : List Char) : Except Failure (Option Statement × List Char) :=
  match cs with
  | [] => .ok (none, [])
  | '[' :: '[' :: rest => do
      let (k, rest) ← key fuel (skipGaps rest)
      let rest ← closing 2 rest
      .ok (some (.tables k), rest)
  | '[' :: rest => do
      let (k, rest) ← key fuel (skipGaps rest)
      let rest ← closing 1 rest
      .ok (some (.table k), rest)
  | c :: _ =>
      if c == '#' || c == '\n' then .ok (none, cs)
      else do
        let (e, rest) ← entry fuel cs
        .ok (some (.entry e.1 e.2), rest)

/-- The rest after the end of a line. -/
def lineEnd (cs : List Char) : Except Failure (Option (List Char)) := do
  match ← skipComment (skipGaps cs) with
  | [] => .ok none
  | '\n' :: rest => .ok (some rest)
  | _ => .error .malformed

/-- A line: its statement, and the rest if there are further lines. -/
def line (cs : List Char) : Except Failure (Option Statement × Option (List Char)) := do
  let cs := skipGaps cs
  let (s, rest) ← statement (cs.length + 1) cs
  let rest ← lineEnd rest
  .ok (s, rest)

/-- The statements up to the first malformed one, and why it is malformed. -/
def statements : Nat → List Char → List Statement × Option Failure
  | 0, _ => ([], none)
  | fuel + 1, cs =>
      match line cs with
      | .error f => ([], some f)
      | .ok (s, none) => (s.toList, none)
      | .ok (s, some rest) =>
          let (others, failure) := statements fuel rest
          (s.toList ++ others, failure)

/-- A line feed for every carriage return with a line feed after it. -/
def unifyLineEnds : List Char → List Char
  | [] => []
  | '\r' :: '\n' :: rest => '\n' :: unifyLineEnds rest
  | c :: rest => c :: unifyLineEnds rest

/-- The table that a document stands for. What is wrong first counts: a statement that contradicts
earlier ones, or the first malformed one. -/
def read (cs : List Char) : Except Failure (Table Value) :=
  let cs := unifyLineEnds cs
  let (statements, failure) := statements (cs.length + 1) cs
  match build statements, failure with
  | none, _ => .error .malformed
  | some _, some f => .error f
  | some t, none => .ok t

end MarkerLint.Toml
