import MarkerLint.Source.Tree

/-!
# Tokens

A module's text is read as tokens first: names, constants, symbols, and the ends and indents of
lines. A text constant is kept as it was written, without its marks.
-/

namespace MarkerLint.Source

/-- A place in a text: lines count from one, columns in bytes from zero. -/
structure Place where
  line : Nat
  column : Nat
deriving DecidableEq, Repr

/-- The place at the beginning of a text. -/
def Place.start : Place := ⟨1, 0⟩

/-- The place after a character. -/
def Place.after (p : Place) (c : Char) : Place :=
  if c = '\n' then ⟨p.line + 1, 0⟩ else ⟨p.line, p.column + c.utf8Size⟩

/-- The place after characters. -/
def Place.afterAll (p : Place) (cs : List Char) : Place :=
  cs.foldl Place.after p

/-- The span between two places. -/
def Place.span (start stop : Place) : Span :=
  ⟨some start.line, some start.column, some stop.line, some stop.column⟩

/-- A text constant as it was written: the letters before its marks, and what stands between them.
-/
structure TextLiteral where
  raw : Bool
  bytes : Bool
  formatted : Bool
  body : List Char
deriving DecidableEq, Repr

/-- What a token is. -/
inductive TokenKind where
  | name (s : String)
  | number (c : Constant)
  | text (t : TextLiteral)
  | symbol (s : String)
  | lineEnd
  | indent
  | dedent
  | fileEnd
deriving DecidableEq, Repr

/-- A token and where it stands. -/
structure Token where
  kind : TokenKind
  start : Place
  stop : Place
deriving DecidableEq, Repr

/-- The words that are no names. -/
def reservedWords : List String :=
  ["False", "None", "True", "and", "as", "assert", "async", "await", "break", "class", "continue",
   "def", "del", "elif", "else", "except", "finally", "for", "from", "global", "if", "import", "in",
   "is", "lambda", "nonlocal", "not", "or", "pass", "raise", "return", "try", "while", "with",
   "yield"]

end MarkerLint.Source
