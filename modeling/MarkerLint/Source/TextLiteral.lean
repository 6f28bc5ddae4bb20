import MarkerLint.Number.Digits
import MarkerLint.Source.Token
import MarkerLint.Text.CharacterNames

/-!
# Text constants

Escapes in text constants, and the parts of a formatted one: literal text, and expressions in braces
with their conversion and format. Braces that belong to the text are written twice; a format may
hold expressions again, but those may not have formats of their own.
-/

namespace MarkerLint.Source

/-- The character that a one-letter escape stands for. -/
def letterEscape? : Char → Option Char
  | '\\' => some '\\'
  | '\'' => some '\''
  | '"' => some '"'
  | 'a' => some (Char.ofNat 7)
  | 'b' => some (Char.ofNat 8)
  | 't' => some '\t'
  | 'n' => some '\n'
  | 'v' => some (Char.ofNat 11)
  | 'f' => some (Char.ofNat 12)
  | 'r' => some '\r'
  | _ => none

/-- An escape with exactly so many hexadecimal digits, in which the code point must exist. -/
def numericEscape? (count : Nat) (cs : List Char) : Option (CodeText × List Char) :=
  let digits := cs.take count
  let n := Digits.number 16 digits
  if digits.length = count && digits.all Digits.isHex && n < 0x110000 then
    some ([.ofNat n], cs.drop count)
  else none

/-- An escape with the name of a character in braces. -/
def namedEscape? : List Char → Option (CodeText × List Char)
  | '\x7b' :: rest =>
      match rest.span (· != '\x7d') with
      | (name, _ :: rest) => (Text.namedChar? name).map fun c => ([.char c], rest)
      | (_, []) => none
  | _ => none

/-- What the text after a backslash begins with: the code points it stands for, and the rest. An
unknown escape stands for itself. -/
def escape? (bytes : Bool) : List Char → Option (CodeText × List Char)
  | [] => some ([.char '\\'], [])
  | c :: rest =>
      if c == '\n' then some ([], rest)
      else if Digits.isOctal c then
        let more := (rest.take 2).takeWhile Digits.isOctal
        let n := Digits.number 8 (c :: more)
        some ([.ofNat (if bytes then n % 256 else n)], rest.drop more.length)
      else if c == 'x' then numericEscape? 2 rest
      else if c == 'u' && !bytes then numericEscape? 4 rest
      else if c == 'U' && !bytes then numericEscape? 8 rest
      else if c == 'N' && !bytes then namedEscape? rest
      else
        match letterEscape? c with
        | some e => some ([.char e], rest)
        | none => some ([.char '\\', .char c], rest)

/-- A text without its escapes, one step for each character at most. -/
def unescapeFrom (bytes : Bool) : Nat → List Char → Option CodeText
  | 0, cs => some (cs.map .char)
  | _ + 1, [] => some []
  | fuel + 1, c :: rest =>
      if c == '\\' then do
        let (decoded, rest) ← escape? bytes rest
        let others ← unescapeFrom bytes fuel rest
        some (decoded ++ others)
      else (.char c :: ·) <$> unescapeFrom bytes fuel rest

/-- A text without its escapes; in a raw one there are none. -/
def unescape (raw bytes : Bool) (cs : List Char) : Option CodeText :=
  if raw then some (cs.map .char) else unescapeFrom bytes cs.length cs

/-- The value of a byte constant: it must be written in ASCII. -/
def bytesOf? (t : TextLiteral) : Option (List UInt8) :=
  if t.body.all Text.isAscii then
    (unescape t.raw true t.body).map fun cs => cs.map fun p => UInt8.ofNat p.toNat
  else none

/-- A part of a formatted text. -/
inductive FormatPart where
  /-- Text as it is. -/
  | literal (t : CodeText)
  /-- An expression with its conversion and the parts of its format. -/
  | expression (source : List Char) (conversion : Option Char) (format : Option (List FormatPart))

/-- Where the search for the end of literal text stands. -/
inductive LiteralState where
  | plain
  | escaped
  /-- After the letter of a named escape. -/
  | naming
  /-- Inside the braces of a named escape. -/
  | name

/-- Literal text up to a brace, whether the brace was written twice, and the rest. At the top a
single closing brace is refused. -/
def literalText (raw top : Bool) : LiteralState → List Char → Option (List Char × Bool × List Char)
  | _, [] => some ([], false, [])
  | state, c :: rest =>
      let further (next : LiteralState) :=
        (literalText raw top next rest).map fun (cs, twice, rest) => (c :: cs, twice, rest)
      let atBrace : Option (List Char × Bool × List Char) :=
        if top && rest.head? == some c then some ([c], true, rest.drop 1)
        else if top && c == '\x7d' then none
        else some ([], false, c :: rest)
      match state with
      | .plain =>
          if !raw && c == '\\' then further .escaped
          else if c == '\x7b' || c == '\x7d' then atBrace
          else further .plain
      | .escaped =>
          if c == 'N' then further .naming
          else if c == '\x7b' || c == '\x7d' then atBrace
          else further .plain
      | .naming => further (if c == '\x7b' then .name else .plain)
      | .name => further (if c == '\x7d' then .plain else .name)

/-- A mark that is open while an expression is searched, and whether it was written three times. -/
structure OpenMark where
  mark : Char
  long : Bool

/-- The text of an expression up to the character that ends it. Marks and brackets must be closed;
characters that have been looked at already are skipped. -/
def expressionText (skip : Nat) (mark : Option OpenMark) (brackets : List Char) :
    List Char → Option (List Char × List Char)
  | [] => none
  | c :: rest =>
      let further (skip : Nat) (mark : Option OpenMark) (brackets : List Char) :=
        (expressionText skip mark brackets rest).map fun (cs, rest) => (c :: cs, rest)
      if 0 < skip then further (skip - 1) mark brackets
      else if c == '\\' then none
      else
        match mark with
        | some m =>
            if c == m.mark then
              if !m.long then further 0 none brackets
              else if [c, c].isPrefixOf rest then further 2 none brackets
              else further 0 mark brackets
            else further 0 mark brackets
        | none =>
            if c == '"' || c == '\'' then
              if [c, c].isPrefixOf rest then further 2 (some ⟨c, true⟩) brackets
              else further 0 (some ⟨c, false⟩) brackets
            else if c == '(' then further 0 none (')' :: brackets)
            else if c == '[' then further 0 none (']' :: brackets)
            else if c == '\x7b' then further 0 none ('\x7d' :: brackets)
            else if c == '#' then none
            else if brackets.isEmpty && ['!', ':', '\x7d', '=', '<', '>'].contains c then
              if c != ':' && c != '\x7d' && rest.head? == some '=' then further 1 none brackets
              else if c == '<' || c == '>' then further 0 none brackets
              else some ([], c :: rest)
            else if c == ')' || c == ']' || c == '\x7d' then
              match brackets with
              | b :: outer => if b == c then further 0 none outer else none
              | [] => none
            else further 0 none brackets

/-- A blank after the sign of an expression that names itself. -/
def isSignBlank (c : Char) : Bool :=
  c == ' ' || (decide (9 ≤ c.toNat) && decide (c.toNat ≤ 13))

/-- The sign of an expression that names itself, with the blanks after it. -/
def selfSign : List Char → List Char × List Char
  | '=' :: rest =>
      let (blanks, rest) := rest.span isSignBlank
      ('=' :: blanks, rest)
  | cs => ([], cs)

/-- The conversion of an expression. -/
def conversion? : List Char → Option (Option Char × List Char)
  | '!' :: c :: rest => if c == 's' || c == 'r' || c == 'a' then some (some c, rest) else none
  | '!' :: [] => none
  | cs => some (none, cs)

/-- The deepest nesting of formats. -/
def formatDepth : Nat := 2

/-- The literal part of a text, if there is any. -/
def literalPart (t : CodeText) : List FormatPart :=
  if t.isEmpty then [] else [.literal t]

mutual

/-- The parts of a formatted text, up to the brace that ends a format. -/
def formatParts (raw : Bool) : Nat → Nat → List Char → Option (List FormatPart × List Char)
  | 0, _, _ => none
  | fuel + 1, depth, cs => do
      let (written, twice, rest) ← literalText raw (depth == 0) .plain cs
      let text ← unescape raw false written
      if twice then
        let (others, rest) ← formatParts raw fuel depth rest
        some (literalPart text ++ others, rest)
      else
        match rest with
        | '\x7b' :: rest => do
            let (here, rest) ← formatExpression raw fuel depth rest
            let (others, rest) ← formatParts raw fuel depth rest
            some (literalPart text ++ here ++ others, rest)
        | rest => some (literalPart text, rest)

/-- An expression in a formatted text after its opening brace. One that names itself comes with its
own text before it. -/
def formatExpression (raw : Bool) : Nat → Nat → List Char → Option (List FormatPart × List Char)
  | 0, _, _ => none
  | fuel + 1, depth, cs => do
      if formatDepth ≤ depth then none
      let (source, rest) ← expressionText 0 none [] cs
      let (sign, rest) := selfSign rest
      let (conversion, rest) ← conversion? rest
      let (format, rest) ←
        match rest with
        | ':' :: rest =>
            (formatParts raw fuel (depth + 1) rest).map fun (parts, rest) => (some parts, rest)
        | rest => some ((none : Option (List FormatPart)), rest)
      match rest with
      | '\x7d' :: rest =>
          let named :=
            if sign.isEmpty then [] else [FormatPart.literal ((source ++ sign).map .char)]
          let conversion :=
            if !sign.isEmpty && conversion.isNone && format.isNone then some 'r' else conversion
          some (named ++ [.expression source conversion format], rest)
      | _ => none

end

/-- The parts of a text constant. -/
def partsOf? (t : TextLiteral) : Option (List FormatPart) :=
  if t.formatted then
    match formatParts t.raw (t.body.length + 1) 0 t.body with
    | some (parts, []) => some parts
    | _ => none
  else (unescape t.raw false t.body).map literalPart

end MarkerLint.Source
