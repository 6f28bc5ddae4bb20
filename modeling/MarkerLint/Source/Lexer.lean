import MarkerLint.Source.NumberLiteral
import MarkerLint.Source.Token
import MarkerLint.Text.CharClass

/-!
# From text to tokens

Lines begin with their indents: a deeper one opens a block, a shallower one must be that of a block
around it. Blanks count in two ways, with tabs up to the next multiple of eight and as single
columns, and both counts must agree on which of two indents is deeper. Inside brackets lines do not
end. Every step of the reader takes at least one character, so the length of the text is fuel
enough.
-/

namespace MarkerLint.Source

/-- The deepest nesting of brackets. -/
def bracketLimit : Nat := 200

/-- The deepest nesting of indents. -/
def indentLimit : Nat := 99

/-- The columns of an indent, counted both ways. -/
structure Indent where
  column : Nat
  plain : Nat
deriving DecidableEq, Repr

/-- The state of the reader: where it stands, the open blocks and the open brackets, the innermost
first. -/
structure LexerState where
  place : Place
  indents : List Indent
  brackets : List Char

/-- The state after characters have been taken. -/
def LexerState.past (s : LexerState) (cs : List Char) : LexerState :=
  { s with place := s.place.afterAll cs }

/-- The characters before the rest of a text. -/
def takenBefore (cs rest : List Char) : List Char :=
  cs.take (cs.length - rest.length)

/-- The form feed. -/
def formFeed : Char := Char.ofNat 12

/-- The indent at the beginning of a line. A line may go on after a backslash; then the blanks
before the first one count. -/
def measureIndent (place : Place) (here : Indent) (kept : Nat) :
    List Char → Option (Indent × Place × List Char)
  | '\\' :: '\n' :: rest =>
      if rest.isEmpty then none
      else
        let place := (place.after '\\').after '\n'
        measureIndent place here (if kept = 0 then here.column else kept) rest
  | c :: rest =>
      if c == ' ' then measureIndent (place.after c) ⟨here.column + 1, here.plain + 1⟩ kept rest
      else if c == '\t' then
        measureIndent (place.after c) ⟨(here.column / 8 + 1) * 8, here.plain + 1⟩ kept rest
      else if c == formFeed then measureIndent (place.after c) ⟨0, 0⟩ kept rest
      else some (if kept = 0 then here else ⟨kept, kept⟩, place, c :: rest)
  | [] => some (if kept = 0 then here else ⟨kept, kept⟩, place, [])

/-- A token of no length. -/
def emptyToken (kind : TokenKind) (place : Place) : Token :=
  ⟨kind, place, place⟩

/-- The tokens that open or close blocks before a line, and the blocks open in it. -/
def changeIndent (place : Place) (here : Indent) (open_ : List Indent) :
    Option (List Token × List Indent) :=
  let top := open_.headD ⟨0, 0⟩
  if here.column = top.column then if here.plain = top.plain then some ([], open_) else none
  else if top.column < here.column then
    if here.plain ≤ top.plain || open_.length ≥ indentLimit then none
    else some ([emptyToken .indent place], here :: open_)
  else
    let closed := open_.takeWhile fun i => decide (here.column < i.column)
    let left := open_.drop closed.length
    if here = left.headD ⟨0, 0⟩ then some (closed.map fun _ => emptyToken .dedent place, left)
    else none

/-- The tokens at the end of a text. -/
def closingTokens (s : LexerState) : List Token :=
  (s.indents.map fun _ => emptyToken .dedent s.place) ++ [emptyToken .fileEnd s.place]

/-- The symbols, longer ones before their beginnings. -/
def symbols : List (List Char) :=
  ["**=", "//=", ">>=", "<<=", "...", "**", "//", ">>", "<<", "<=", ">=", "==", "!=", "->", "+=",
   "-=", "*=", "/=", "%=", "&=", "|=", "^=", "@=", ":=", "<>", "(", ")", "[", "]", "\x7b", "\x7d",
   ",", ":", ";", "+", "-", "*", "/", "|", "&", "<", ">", "=", ".", "%", "~", "^", "@"].map
    String.toList

/-- The closing bracket for an opening one. -/
def closingBracket? : Char → Option Char
  | '(' => some ')'
  | '[' => some ']'
  | '\x7b' => some '\x7d'
  | _ => none

/-- The open brackets after a symbol. -/
def bracketsAfter (symbol : List Char) (brackets : List Char) : Option (List Char) :=
  match symbol with
  | [c] =>
      match closingBracket? c with
      | some close => if brackets.length ≥ bracketLimit then none else some (close :: brackets)
      | none =>
          if c == ')' || c == ']' || c == '\x7d' then
            match brackets with
            | b :: rest => if b = c then some rest else none
            | [] => none
          else some brackets
  | _ => some brackets

/-- The letters that may stand before a text constant, and what they say about it. -/
def prefixFlags? (letters : List Char) : Option (Bool × Bool × Bool) :=
  match letters.map Char.toLower with
  | [] => some (false, false, false)
  | ['u'] => some (false, false, false)
  | ['r'] => some (true, false, false)
  | ['b'] => some (false, true, false)
  | ['f'] => some (false, false, true)
  | ['b', 'r'] => some (true, true, false)
  | ['r', 'b'] => some (true, true, false)
  | ['f', 'r'] => some (true, false, true)
  | ['r', 'f'] => some (true, false, true)
  | _ => none

/-- The body of a text constant on one line, up to its closing mark. A backslash takes the character
after it along. -/
def shortBody (mark : Char) (escaped : Bool) : List Char → Option (List Char × List Char)
  | [] => none
  | c :: rest =>
      if escaped then consFirst c (shortBody mark false rest)
      else if c == mark then some ([], rest)
      else if c == '\n' then none
      else consFirst c (shortBody mark (c == '\\') rest)
where
  /-- Puts a character before the first of two texts. -/
  consFirst (c : Char) (r : Option (List Char × List Char)) : Option (List Char × List Char) :=
    r.map fun (body, rest) => (c :: body, rest)

/-- The body of a text constant over several lines, up to its three closing marks. -/
def longBody (mark : Char) (escaped : Bool) : List Char → Option (List Char × List Char)
  | [] => none
  | c :: rest =>
      let further (escaped : Bool) := (longBody mark escaped rest).map fun (body, rest) =>
        (c :: body, rest)
      if escaped then further false
      else if c == mark && [mark, mark].isPrefixOf rest then some ([], rest.drop 2)
      else further (c == '\\')

/-- The body of a text constant from its opening marks on. -/
def textBody? : List Char → Option (List Char × List Char)
  | mark :: rest =>
      if [mark, mark].isPrefixOf rest then longBody mark false (rest.drop 2)
      else shortBody mark false rest
  | [] => none

/-- A text constant at the beginning of a text; nothing if there is none, and inside it nothing if
it is not closed. -/
def textLiteral? (cs : List Char) : Option (Option (TextLiteral × List Char)) :=
  let (letters, rest) := (cs.take 2).span Text.isAsciiLetter
  let rest := rest ++ cs.drop 2
  match rest with
  | c :: _ =>
      if c == '"' || c == '\'' then
        (prefixFlags? letters).map fun (raw, bytes, formatted) =>
          (textBody? rest).map fun (body, rest) => (⟨raw, bytes, formatted, body⟩, rest)
      else none
  | [] => none

/-- The characters form a name. -/
def isName (cs : List Char) : Bool :=
  match cs with
  | [] => false
  | c :: rest => Text.isIdentifierStart c && rest.all Text.isIdentifierPart

/-- A number begins here. -/
def beginsNumber : List Char → Bool
  | c :: d :: _ => Text.isAsciiDigit c || (c == '.' && Text.isAsciiDigit d)
  | [c] => Text.isAsciiDigit c
  | [] => false

/-- The token at the beginning of a text, the characters it takes, and the rest. -/
def token? (cs : List Char) : Option (TokenKind × List Char × List Char) :=
  match textLiteral? cs with
  | some literal => do
      let (t, rest) ← literal
      some (.text t, takenBefore cs rest, rest)
  | none =>
      if beginsNumber cs then do
        let (n, rest) ← numberLiteral? cs
        some (.number n, takenBefore cs rest, rest)
      else
        match cs.span mayBelongToName with
        | ([], _) => do
            let symbol ← symbols.find? fun s => s.isPrefixOf cs
            some (.symbol (String.ofList symbol), symbol, cs.drop symbol.length)
        | (name, rest) =>
            if isName name then some (.name (String.ofList name), name, rest) else none

/-- The open brackets after a token. -/
def LexerState.withToken (s : LexerState) (kind : TokenKind) : Option (List Char) :=
  match kind with
  | .symbol symbol => bracketsAfter symbol.toList s.brackets
  | _ => some s.brackets

mutual

/-- The tokens from the beginning of a line on. -/
def tokensFromLine : Nat → LexerState → List Char → Option (List Token)
  | 0, _, _ => none
  | fuel + 1, s, cs => do
      let (here, place, rest) ← measureIndent s.place ⟨0, 0⟩ 0 cs
      let s := { s with place }
      match rest with
      | [] => some (closingTokens s)
      | '\n' :: rest => tokensFromLine fuel (s.past ['\n']) rest
      | '#' :: rest => tokensFromComment fuel true s ('#' :: rest)
      | rest => do
          let (before, indents) ← changeIndent place here s.indents
          let others ← tokensInLine fuel { s with indents } rest
          some (before ++ others)

/-- The tokens after a comment, whose line counts as empty or not. -/
def tokensFromComment : Nat → Bool → LexerState → List Char → Option (List Token)
  | 0, _, _, _ => none
  | fuel + 1, emptyLine, s, cs =>
      let (comment, rest) := cs.span (· != '\n')
      let s := s.past comment
      if emptyLine then tokensFromLine fuel (s.past (rest.take 1)) (rest.drop 1)
      else tokensInLine fuel s rest

/-- The tokens from inside a line on. -/
def tokensInLine : Nat → LexerState → List Char → Option (List Token)
  | 0, _, _ => none
  | fuel + 1, s, cs =>
      match cs with
      | [] => none
      | '\n' :: rest =>
          if s.brackets.isEmpty then
            (emptyToken .lineEnd s.place :: ·) <$> tokensFromLine fuel (s.past ['\n']) rest
          else tokensInLine fuel (s.past ['\n']) rest
      | '\\' :: '\n' :: rest =>
          if rest.isEmpty then none else tokensInLine fuel (s.past ['\\', '\n']) rest
      | '#' :: rest => tokensFromComment fuel false s ('#' :: rest)
      | c :: rest =>
          if c == ' ' || c == '\t' || c == formFeed then tokensInLine fuel (s.past [c]) rest
          else do
            let (kind, taken, rest) ← token? cs
            let brackets ← s.withToken kind
            let after := { s.past taken with brackets }
            let others ← tokensInLine fuel after rest
            some (⟨kind, s.place, after.place⟩ :: others)

end

/-- The tokens of a text whose last line is ended. -/
def tokens? (cs : List Char) : Option (List Token) :=
  tokensFromLine (2 * cs.length + 2) ⟨.start, [], []⟩ cs

end MarkerLint.Source
