import MarkerLint.Source.Token

/-!
# Reading tokens

A cursor stands before a token. It also knows where the last token ended that was written in the
text, so that the span of what has been read can be told. A reading step returns what it read and
the cursor after it, or nothing if the tokens do not have its form.
-/

namespace MarkerLint.Source

/-- A position among tokens: where the last written token ended, and the tokens that follow. -/
structure Cursor where
  stop : Place
  tokens : List Token

/-- The token marks the structure of lines and is not written itself. -/
def TokenKind.isLayout : TokenKind → Bool
  | .lineEnd => true
  | .indent => true
  | .dedent => true
  | .fileEnd => true
  | _ => false

namespace Cursor

/-- A cursor before the first token. -/
def ofTokens (tokens : List Token) : Cursor :=
  ⟨.start, tokens⟩

/-- The token that follows. -/
def kind (c : Cursor) : TokenKind :=
  match c.tokens with
  | t :: _ => t.kind
  | [] => .fileEnd

/-- Where the token that follows begins. -/
def start (c : Cursor) : Place :=
  match c.tokens with
  | t :: _ => t.start
  | [] => c.stop

/-- The cursor after the token that follows. -/
def next (c : Cursor) : Cursor :=
  match c.tokens with
  | t :: rest => ⟨if t.kind.isLayout then c.stop else t.stop, rest⟩
  | [] => c

/-- The token follows. -/
def isAt (c : Cursor) (kind : TokenKind) : Bool :=
  c.kind == kind

/-- The symbol follows. -/
def isAtSymbol (c : Cursor) (s : String) : Bool :=
  c.isAt (.symbol s)

/-- The word follows. -/
def isAtWord (c : Cursor) (s : String) : Bool :=
  c.isAt (.name s)

/-- The cursor after the token, if it follows. -/
def past? (c : Cursor) (kind : TokenKind) : Option Cursor :=
  if c.isAt kind then some c.next else none

/-- The cursor after the symbol, if it follows. -/
def symbol? (c : Cursor) (s : String) : Option Cursor :=
  c.past? (.symbol s)

/-- The cursor after the word, if it follows. -/
def word? (c : Cursor) (s : String) : Option Cursor :=
  c.past? (.name s)

/-- The name that follows; reserved words are no names. -/
def name? (c : Cursor) : Option (String × Cursor) :=
  match c.kind with
  | .name s => if reservedWords.contains s then none else some (s, c.next)
  | _ => none

/-- The span from a place to where the last written token ended. -/
def spanFrom (c : Cursor) (start : Place) : Span :=
  start.span c.stop

end Cursor

end MarkerLint.Source
