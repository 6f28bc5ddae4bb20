import MarkerLint.Number.Digits

/-!
# Texts in configuration files

The four ways of writing a text: between double marks with escapes, between single marks as it
stands, and both again over several lines between three marks. Control characters are refused, and
an escape must name a character of the standard.
-/

namespace MarkerLint.Toml

/-- A text that was read, and the rest. -/
abbrev Read (α : Type) := Option (α × List Char)

/-- A control character that may not stand in a text, comment or line. -/
def isIllegal (multiline : Bool) (c : Char) : Bool :=
  (decide (c.toNat < 32) || c.toNat == 127) && c != '\t' && !(multiline && c == '\n')

/-- A blank inside a line. -/
def isGap (c : Char) : Bool :=
  c == ' ' || c == '\t'

/-- The character that a one-letter escape stands for. -/
def simpleEscape? : Char → Option Char
  | 'b' => some (Char.ofNat 8)
  | 't' => some '\t'
  | 'n' => some '\n'
  | 'f' => some (Char.ofNat 12)
  | 'r' => some '\r'
  | '"' => some '"'
  | '\\' => some '\\'
  | _ => none

/-- The character of a code point, unless it is a surrogate or beyond the last plane. -/
def scalar? (n : Nat) : Option Char :=
  if n < 0xD800 ∨ (0xDFFF < n ∧ n < 0x110000) then some (Char.ofNat n) else none

/-- Where the reading of a text with escapes stands. -/
inductive TextState where
  /-- Between characters. -/
  | plain
  /-- After a backslash. -/
  | escape
  /-- After the beginning of a numeric escape, with so many digits to come. -/
  | numeric (digits value : Nat)
  /-- After a backslash and blanks at the end of a line. -/
  | lineEnd
  /-- In the blanks that follow such a line end. -/
  | lineStart

/-- Puts a character before a text that was read. -/
def push (c : Char) (r : Read (List Char)) : Read (List Char) :=
  r.map fun (cs, rest) => (c :: cs, rest)

/-- A text with escapes, up to the marks that end it. -/
def basicFrom (multiline : Bool) : TextState → List Char → Read (List Char)
  | .plain, '"' :: '"' :: '"' :: rest =>
      some ([], if multiline then rest else '"' :: '"' :: rest)
  | .lineStart, '"' :: '"' :: '"' :: rest => some ([], rest)
  | _, [] => none
  | .plain, c :: rest =>
      if c == '"' then
        if multiline then push c (basicFrom multiline .plain rest) else some ([], rest)
      else if c == '\\' then basicFrom multiline .escape rest
      else if isIllegal multiline c then none
      else push c (basicFrom multiline .plain rest)
  | .escape, c :: rest =>
      if c == 'u' then basicFrom multiline (.numeric 4 0) rest
      else if c == 'U' then basicFrom multiline (.numeric 8 0) rest
      else if multiline && c == '\n' then basicFrom multiline .lineStart rest
      else if multiline && isGap c then basicFrom multiline .lineEnd rest
      else
        match simpleEscape? c with
        | some e => push e (basicFrom multiline .plain rest)
        | none => none
  | .numeric digits value, c :: rest =>
      if !Digits.isHex c then none
      else
        let value := value * 16 + Digits.valueOf c
        if digits ≤ 1 then
          match scalar? value with
          | some e => push e (basicFrom multiline .plain rest)
          | none => none
        else basicFrom multiline (.numeric (digits - 1) value) rest
  | .lineEnd, c :: rest =>
      if isGap c then basicFrom multiline .lineEnd rest
      else if c == '\n' then basicFrom multiline .lineStart rest
      else none
  | .lineStart, c :: rest =>
      if isGap c || c == '\n' then basicFrom multiline .lineStart rest
      else if c == '"' then push c (basicFrom multiline .plain rest)
      else if c == '\\' then basicFrom multiline .escape rest
      else if isIllegal multiline c then none
      else push c (basicFrom multiline .plain rest)

/-- A text as it stands, up to the mark that ends it. -/
def literalLine : List Char → Read (List Char)
  | [] => none
  | c :: rest =>
      if c == '\'' then some ([], rest)
      else if isIllegal false c then none
      else push c (literalLine rest)

/-- A text as it stands over several lines, up to the marks that end it. -/
def literalLines : List Char → Read (List Char)
  | [] => none
  | '\'' :: '\'' :: '\'' :: rest => some ([], rest)
  | c :: rest => if isIllegal true c then none else push c (literalLines rest)

/-- A line feed directly after the opening marks does not belong to the text. -/
def dropFirstLineEnd : List Char → List Char
  | '\n' :: rest => rest
  | cs => cs

/-- Up to two marks directly before the ones that end a text belong to it: they are read as the
first of these. -/
def withMarks (mark : Char) : Read (List Char) → Read (List Char)
  | none => none
  | some (cs, a :: b :: rest) =>
      if a != mark then some (cs, a :: b :: rest)
      else if b != mark then some (cs ++ [mark], b :: rest)
      else some (cs ++ [mark, mark], rest)
  | some (cs, [a]) => if a != mark then some (cs, [a]) else some (cs ++ [mark], [])
  | some (cs, []) => some (cs, [])

/-- A text in any of the four ways; nothing if the first character opens none. -/
def text? : List Char → Option (Read String)
  | '"' :: '"' :: '"' :: rest =>
      some (finish (withMarks '"' (basicFrom true .plain (dropFirstLineEnd rest))))
  | '\'' :: '\'' :: '\'' :: rest =>
      some (finish (withMarks '\'' (literalLines (dropFirstLineEnd rest))))
  | '"' :: rest => some (finish (basicFrom false .plain rest))
  | '\'' :: rest => some (finish (literalLine rest))
  | _ => none
where
  /-- The characters as a text. -/
  finish (r : Read (List Char)) : Read String :=
    r.map fun (cs, rest) => (String.ofList cs, rest)

end MarkerLint.Toml
