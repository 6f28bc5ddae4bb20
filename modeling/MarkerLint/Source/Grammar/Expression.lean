import MarkerLint.Source.Computed
import MarkerLint.Source.Cursor
import MarkerLint.Source.Lexer
import MarkerLint.Source.Target
import MarkerLint.Source.TextLiteral

/-!
# Reading expressions

Every form of expression, from those that bind least to those that bind most. Each function reads
one form and returns the cursor after it. Functions that call each other take an amount of fuel:
between two tokens there are fewer calls than forms, so a fixed multiple of the length of the text
is enough.
-/

namespace MarkerLint.Source

/-- An optional phrase: nothing is read if it does not follow. -/
def optional {α : Type} (read : Cursor → Option (α × Cursor)) (c : Cursor) : Option α × Cursor :=
  match read c with
  | some (a, c) => (some a, c)
  | none => (none, c)

/-- Items with commas between them, at least one. A comma after the last one is read too, and it is
told whether there is one. -/
def commaList {α : Type} (item : Cursor → Option (α × Cursor)) :
    Nat → Cursor → Option (List α × Bool × Cursor)
  | 0, _ => none
  | fuel + 1, c => do
      let (a, c) ← item c
      match c.symbol? "," with
      | none => some ([a], false, c)
      | some afterComma =>
          match commaList item fuel afterComma with
          | some (others, comma, c) => some (a :: others, comma, c)
          | none => some ([a], true, afterComma)

/-- Operands with a word between them, at least one. -/
def junctionOf (word : String) (operand : Cursor → Option (Expr × Cursor)) :
    Nat → Cursor → Option (List Expr × Cursor)
  | 0, _ => none
  | fuel + 1, c => do
      let (e, c) ← operand c
      match c.word? word with
      | none => some ([e], c)
      | some c => do
          let (others, c) ← junctionOf word operand fuel c
          some (e :: others, c)

/-- An operand that may be spread. -/
def starExpressionOf (operand : Cursor → Option (Expr × Cursor)) (c : Cursor) :
    Option (Expr × Cursor) :=
  match c.symbol? "*" with
  | some c' => do
      let (e, c') ← operand c'
      some (.starred (c'.spanFrom c.start) e, c')
  | none => operand c

/-- The items of a display up to its closing bracket; there may be none. -/
def displayItems {α : Type} (item : Cursor → Option (α × Cursor)) (fuel : Nat) (closing : String)
    (c : Cursor) : Option (List α × Cursor) :=
  match c.symbol? closing with
  | some c => some ([], c)
  | none => do
      let (items, _, c) ← commaList item fuel c
      let c ← c.symbol? closing
      some (items, c)

/-- The items of a display after the first one, up to its closing bracket. -/
def itemsAfter {α : Type} (first : α) (item : Cursor → Option (α × Cursor)) (fuel : Nat)
    (closing : String) (c : Cursor) : Option (List α × Cursor) :=
  match c.symbol? "," with
  | some c => (displayItems item fuel closing c).map fun (others, c) => (first :: others, c)
  | none => (c.symbol? closing).map fun c => ([first], c)

/-- One expression stands for itself; several, or one with a comma, are a tuple. -/
def tupleOf (span : Span) (items : List Expr) (comma : Bool) : Expr :=
  match items, comma with
  | [e], false => e
  | items, _ => .sequence span .tuple items

/-- A name that is given to a value follows. -/
def Cursor.isAtNaming (c : Cursor) : Bool :=
  match c.name? with
  | some (_, c) => c.isAtSymbol ":="
  | none => false

/-- A clause of a comprehension follows. -/
def Cursor.isAtClause (c : Cursor) : Bool :=
  c.isAtWord "for" || (c.isAtWord "async" && c.next.isAtWord "for")

/-- The operator of a comparison. -/
def Cursor.comparisonOperator? (c : Cursor) : Option (String × Cursor) :=
  match c.kind with
  | .symbol s =>
      if ["==", "!=", "<", "<=", ">", ">="].contains s then some (s, c.next) else none
  | .name "in" => some ("in", c.next)
  | .name "not" => (c.next.word? "in").map fun c => ("not in", c)
  | .name "is" =>
      match c.next.word? "not" with
      | some c => some ("is not", c)
      | none => some ("is", c.next)
  | _ => none

/-- An operator that groups to the left and binds so tightly. -/
def Cursor.leftOperator? (c : Cursor) (strength : Nat) : Option (String × Cursor) :=
  match c.kind with
  | .symbol s => if (leftOperators strength).contains s then some (s, c.next) else none
  | _ => none

/-- A sign before an operand. -/
def Cursor.sign? (c : Cursor) : Option (String × Cursor) :=
  match c.kind with
  | .symbol s => if ["+", "-", "~"].contains s then some (s, c.next) else none
  | _ => none

/-- The text constants that follow each other directly. -/
def textsFrom (stop : Place) : List Token → List TextLiteral × Cursor
  | ⟨.text t, _, stop⟩ :: rest =>
      let (others, c) := textsFrom stop rest
      (t :: others, c)
  | rest => ([], ⟨stop, rest⟩)

/-- Literal parts that follow each other are one part. -/
def mergeLiterals : List FormatPart → List FormatPart
  | [] => []
  | .literal cs :: rest =>
      match mergeLiterals rest with
      | .literal ds :: others => .literal (cs ++ ds) :: others
      | others => .literal cs :: others
  | part :: rest => part :: mergeLiterals rest

/-- The text that literal parts make up. -/
def literalTextOf (parts : List FormatPart) : CodeText :=
  parts.flatMap fun
    | .literal cs => cs
    | .expression .. => []

/-- A blank that does not count in an embedded expression. -/
def isEmbeddedBlank (c : Char) : Bool :=
  c == ' ' || c == '\t' || c == '\n' || c == formFeed

/-- The text of the conversion and the format of an embedded expression. -/
def formatText (conversion : Option Char) (format : Option (List Expr)) : Option String :=
  let head := match conversion with
    | some c => ['!', c]
    | none => []
  match format with
  | none => some (String.ofList head)
  | some parts =>
      match partTexts parts with
      | .ok texts =>
          some (String.ofList (head ++ ':' :: ((joinedText texts.flatten).drop 2).dropLast))
      | .error _ => none

/-- An embedded expression with its conversion and format. -/
def embeddedOf (span : Span) (value : Expr) (conversion : Option Char)
    (format : Option (List Expr)) : Expr :=
  match formatText conversion format with
  | some text => .embedded span value text
  | none => .computed span Strength.atom none

/-- An argument of a call. -/
inductive Argument where
  | positional (e : Expr)
  | spread (e : Expr)
  | keyword (name : String) (e : Expr)
  | spreadTable (e : Expr)
  | generator (e : Expr)

/-- Which arguments may still follow in a call. -/
inductive ArgumentStage where
  | any
  | keywords
  | tables

/-- The arguments stand in an allowed order: positional ones before those with a name, and nothing
spread after a table. -/
def argumentsInOrder : ArgumentStage → List Argument → Bool
  | _, [] => true
  | .any, .positional _ :: rest => argumentsInOrder .any rest
  | .any, .spread _ :: rest => argumentsInOrder .any rest
  | .any, .keyword .. :: rest => argumentsInOrder .keywords rest
  | .keywords, .spread _ :: rest => argumentsInOrder .keywords rest
  | .keywords, .keyword .. :: rest => argumentsInOrder .keywords rest
  | .tables, .keyword .. :: rest => argumentsInOrder .tables rest
  | _, .spreadTable _ :: rest => argumentsInOrder .tables rest
  | _, _ => false

/-- The expressions of the arguments that have no name. -/
def positionalArguments (arguments : List Argument) : List Expr :=
  arguments.filterMap fun
    | .positional e => some e
    | .spread e => some (.starred e.span e)
    | .generator e => some e
    | _ => none

/-- The arguments with a name, and the tables that are spread. -/
def keywordArguments (arguments : List Argument) : List (Option String × Expr) :=
  arguments.filterMap fun
    | .keyword name e => some (some name, e)
    | .spreadTable e => some (none, e)
    | _ => none

/-- What has been read of a list of parameters. -/
structure ParameterState where
  /-- There is a parameter already. -/
  begun : Bool
  /-- The mark after parameters that have no name for callers. -/
  slash : Bool
  /-- A parameter has a default. -/
  defaults : Bool
  /-- A star has been read. -/
  star : Bool
  /-- A star without a name waits for a parameter. -/
  bare : Bool

/-- Nothing has been read of a list of parameters. -/
def ParameterState.start : ParameterState :=
  ⟨false, false, false, false, false⟩

/-- The state after a parameter, which has a default or not. A parameter without one may not follow
a parameter with one, except after a star. -/
def ParameterState.afterParameter (s : ParameterState) (hasDefault : Bool) :
    Option ParameterState :=
  if !hasDefault && s.defaults && !s.star then none
  else some { s with begun := true, defaults := s.defaults || hasDefault, bare := false }

/-- The text of a parameter with its default. -/
def parameterText (name : String) (fallback : Option Expr) : Option String :=
  match fallback with
  | none => some name
  | some e => e.plainText.map fun text => name ++ "=" ++ text

mutual

/-- An expression without a comma: a function without a name, a condition with its alternatives, or
less. -/
def expression : Nat → Cursor → Option (Expr × Cursor)
  | 0, _ => none
  | fuel + 1, c =>
      match c.word? "lambda" with
      | some c' => function fuel c.start c'
      | none => do
          let (body, c') ← disjunction fuel c
          match c'.word? "if" with
          | none => some (body, c')
          | some c' => do
              let (test, c') ← disjunction fuel c'
              let c' ← c'.word? "else"
              let (alternative, c') ← expression fuel c'
              some (.conditional (c'.spanFrom c.start) body test alternative, c')

/-- A function without a name after the word that begins it. -/
def function : Nat → Place → Cursor → Option (Expr × Cursor)
  | 0, _, _ => none
  | fuel + 1, start, c => do
      let (texts, c) ← parameters fuel false ":" c
      let c ← c.symbol? ":"
      let (body, c) ← expression fuel c
      some (.function (c.spanFrom start) texts body, c)

/-- Parameters up to a closing symbol, by their texts; there may be none. -/
def parameters : Nat → Bool → String → Cursor → Option (List (Option String) × Cursor)
  | 0, _, _, _ => none
  | fuel + 1, annotated, closing, c =>
      if c.isAtSymbol closing then some ([], c)
      else parametersFrom fuel annotated closing .start c

/-- Further parameters, at least one. -/
def parametersFrom : Nat → Bool → String → ParameterState → Cursor →
    Option (List (Option String) × Cursor)
  | 0, _, _, _, _ => none
  | fuel + 1, annotated, closing, s, c => do
      let (text, s, c) ← parameter fuel annotated s c
      match c.symbol? ",", s with
      | some c, some s =>
          if c.isAtSymbol closing then if s.bare then none else some ([text], c)
          else do
            let (others, c) ← parametersFrom fuel annotated closing s c
            some (text :: others, c)
      | some c, none => if c.isAtSymbol closing then some ([text], c) else none
      | none, s =>
          if (s.map ParameterState.bare).getD false then none
          else if c.isAtSymbol closing then some ([text], c) else none

/-- A parameter or a mark between parameters, and the state after it, if others may follow. -/
def parameter : Nat → Bool → ParameterState → Cursor →
    Option (Option String × Option ParameterState × Cursor)
  | 0, _, _, _ => none
  | fuel + 1, annotated, s, c =>
      match c.symbol? "/", c.symbol? "*", c.symbol? "**" with
      | some c, _, _ =>
          if s.begun && !s.slash && !s.star then some (some "/", some { s with slash := true }, c)
          else none
      | _, some c, _ =>
          if s.star then none
          else if c.isAtSymbol "," then
            some (some "*", some { s with star := true, bare := true }, c)
          else do
            let (name, c) ← c.name?
            let c ← annotation fuel annotated true c
            some (some ("*" ++ name), some { s with begun := true, star := true }, c)
      | _, _, some c =>
          if s.bare then none
          else do
            let (name, c) ← c.name?
            let c ← annotation fuel annotated false c
            some (some ("**" ++ name), none, c)
      | _, _, _ => do
          let (name, c) ← c.name?
          let c ← annotation fuel annotated false c
          match c.symbol? "=" with
          | none => do
              let s ← s.afterParameter false
              some (some name, some s, c)
          | some c => do
              let (e, c) ← expression fuel c
              let s ← s.afterParameter true
              some (parameterText name (some e), some s, c)

/-- The annotation of a parameter, if there is one. -/
def annotation : Nat → Bool → Bool → Cursor → Option Cursor
  | 0, _, _, _ => none
  | fuel + 1, annotated, starAllowed, c =>
      match c.symbol? ":" with
      | some c' =>
          if !annotated then some c
          else if starAllowed then (starExpression fuel c').map Prod.snd
          else (expression fuel c').map Prod.snd
      | none => some c

/-- Operands of `or`. -/
def disjunction : Nat → Cursor → Option (Expr × Cursor)
  | 0, _ => none
  | fuel + 1, c => do
      let (operands, c') ← junctionOf "or" (conjunction fuel) fuel c
      match operands with
      | [e] => some (e, c')
      | es => some (.junction (c'.spanFrom c.start) Strength.disjunction "or" es, c')

/-- Operands of `and`. -/
def conjunction : Nat → Cursor → Option (Expr × Cursor)
  | 0, _ => none
  | fuel + 1, c => do
      let (operands, c') ← junctionOf "and" (negation fuel) fuel c
      match operands with
      | [e] => some (e, c')
      | es => some (.junction (c'.spanFrom c.start) Strength.conjunction "and" es, c')

/-- A negation of truth, or less. -/
def negation : Nat → Cursor → Option (Expr × Cursor)
  | 0, _ => none
  | fuel + 1, c =>
      match c.word? "not" with
      | some c' => do
          let (e, c') ← negation fuel c'
          some (.unary (c'.spanFrom c.start) "not" e, c')
      | none => do
          let (first, c') ← operation fuel Strength.bits c
          let (others, c') ← comparisons fuel c'
          if others.isEmpty then some (first, c')
          else some (.comparison (c'.spanFrom c.start) first others, c')

/-- The further operands of a comparison with the operators before them. -/
def comparisons : Nat → Cursor → Option (List (String × Expr) × Cursor)
  | 0, _ => none
  | fuel + 1, c =>
      match c.comparisonOperator? with
      | none => some ([], c)
      | some (op, c) => do
          let (e, c) ← operation fuel Strength.bits c
          let (others, c) ← comparisons fuel c
          some ((op, e) :: others, c)

/-- An operation whose operators group to the left and bind at least so tightly. -/
def operation : Nat → Nat → Cursor → Option (Expr × Cursor)
  | 0, _, _ => none
  | fuel + 1, strength, c =>
      if strength < Strength.sign then do
        let (left, c') ← operation fuel (strength + 1) c
        operations fuel strength c.start left c'
      else signed fuel c

/-- The further operands of an operation. -/
def operations : Nat → Nat → Place → Expr → Cursor → Option (Expr × Cursor)
  | 0, _, _, _, _ => none
  | fuel + 1, strength, start, left, c =>
      match c.leftOperator? strength with
      | none => some (left, c)
      | some (op, c) => do
          let (right, c) ← operation fuel (strength + 1) c
          operations fuel strength start (.operation (c.spanFrom start) strength op left right) c

/-- An operand with signs before it, or a power. -/
def signed : Nat → Cursor → Option (Expr × Cursor)
  | 0, _ => none
  | fuel + 1, c =>
      match c.sign? with
      | some (op, c') => do
          let (e, c') ← signed fuel c'
          some (.unary (c'.spanFrom c.start) op e, c')
      | none => do
          let (base, c') ← waited fuel c
          match c'.symbol? "**" with
          | none => some (base, c')
          | some c' => do
              let (exponent, c') ← signed fuel c'
              some (.power (c'.spanFrom c.start) base exponent, c')

/-- A wait for a value, or less. -/
def waited : Nat → Cursor → Option (Expr × Cursor)
  | 0, _ => none
  | fuel + 1, c =>
      match c.word? "await" with
      | some c' => do
          let (e, c') ← primary fuel c'
          some (.wait (c'.spanFrom c.start) e, c')
      | none => primary fuel c

/-- An atom with the attributes, calls and items taken from it. -/
def primary : Nat → Cursor → Option (Expr × Cursor)
  | 0, _ => none
  | fuel + 1, c => do
      let (e, c') ← atom fuel c
      accesses fuel c.start e c'

/-- The attributes, calls and items that are taken from an expression. -/
def accesses : Nat → Place → Expr → Cursor → Option (Expr × Cursor)
  | 0, _, _, _ => none
  | fuel + 1, start, e, c =>
      match c.symbol? ".", c.symbol? "(", c.symbol? "[" with
      | some c, _, _ => do
          let (attr, c) ← c.name?
          accesses fuel start (.attribute (c.spanFrom start) e attr) c
      | _, some c, _ => do
          let (arguments, c) ← callArguments fuel true c
          let call := Expr.call (c.spanFrom start) e (positionalArguments arguments)
            (keywordArguments arguments)
          accesses fuel start call c
      | _, _, some c => do
          let (items, comma, c') ← commaList (index fuel) fuel c
          let comma := comma || items.any fun
            | .starred .. => true
            | _ => false
          let i := tupleOf (c'.spanFrom c.start) items comma
          let c ← c'.symbol? "]"
          accesses fuel start (.subscript (c.spanFrom start) e i) c
      | _, _, _ => some (e, c)

/-- The arguments of a call and its closing bracket. A generator may stand only where it is allowed,
and alone. -/
def callArguments : Nat → Bool → Cursor → Option (List Argument × Cursor)
  | 0, _, _ => none
  | fuel + 1, generatorAllowed, c =>
      match c.symbol? ")" with
      | some c => some ([], c)
      | none => do
          let (arguments, comma, c) ← commaList (argument fuel) fuel c
          let c ← c.symbol? ")"
          match arguments with
          | [.generator e] =>
              if generatorAllowed && !comma then some ([.generator e], c) else none
          | arguments => if argumentsInOrder .any arguments then some (arguments, c) else none

/-- An argument of a call. -/
def argument : Nat → Cursor → Option (Argument × Cursor)
  | 0, _ => none
  | fuel + 1, c =>
      match c.symbol? "*", c.symbol? "**", c.name? with
      | some c, _, _ => (expression fuel c).map fun (e, c) => (.spread e, c)
      | _, some c, _ => (expression fuel c).map fun (e, c) => (.spreadTable e, c)
      | _, _, named =>
          match named.bind fun (name, c) => (c.symbol? "=").map fun c => (name, c) with
          | some (name, c) => (expression fuel c).map fun (e, c) => (.keyword name e, c)
          | none => do
              let (e, c') ← namedExpression fuel c
              if c'.isAtClause then do
                let (clauses, c') ← clauses fuel c'
                let span := c'.spanFrom c.start
                some (.generator (.comprehension span "(" ")" e.plainText clauses), c')
              else some (.positional e, c')

/-- An index: an expression, one that is spread, or a range. -/
def index : Nat → Cursor → Option (Expr × Cursor)
  | 0, _ => none
  | fuel + 1, c =>
      match c.symbol? "*", c.symbol? ":" with
      | some c', _ => do
          let (e, c') ← expression fuel c'
          some (.starred (c'.spanFrom c.start) e, c')
      | _, some c' => rangeFrom fuel c.start none c'
      | _, _ => do
          let (e, c') ← namedExpression fuel c
          match c'.symbol? ":" with
          | some c' => if c.isAtNaming then none else rangeFrom fuel c.start (some e) c'
          | none => some (e, c')

/-- A range after the colon that follows its lower end. -/
def rangeFrom : Nat → Place → Option Expr → Cursor → Option (Expr × Cursor)
  | 0, _, _, _ => none
  | fuel + 1, start, lower, c =>
      let (upper, c) := optional (expression fuel) c
      match c.symbol? ":" with
      | none => some (.range (c.spanFrom start) lower upper none, c)
      | some c =>
          let (step, c) := optional (expression fuel) c
          some (.range (c.spanFrom start) lower upper step, c)

/-- A name, a constant, or an expression between brackets. -/
def atom : Nat → Cursor → Option (Expr × Cursor)
  | 0, _ => none
  | fuel + 1, c =>
      let constant (value : Constant) : Option (Expr × Cursor) :=
        some (.constant (c.next.spanFrom c.start) value, c.next)
      match c.kind with
      | .name "True" => constant (.boolean true)
      | .name "False" => constant (.boolean false)
      | .name "None" => constant .null
      | .name _ => c.name?.map fun (id, c') => (.name (c'.spanFrom c.start) id, c')
      | .number value => constant value
      | .text _ => do
          let (literals, c') := textsFrom c.stop c.tokens
          let e ← textConstant fuel (c'.spanFrom c.start) literals
          some (e, c')
      | .symbol "..." => constant .ellipsis
      | .symbol "(" => group fuel c.start c.next
      | .symbol "[" => listDisplay fuel c.start c.next
      | .symbol "\x7b" => braceDisplay fuel c.start c.next
      | _ => none

/-- Text constants that follow each other: all of bytes, or none. -/
def textConstant : Nat → Span → List TextLiteral → Option Expr
  | 0, _, _ => none
  | fuel + 1, span, literals =>
      if literals.all TextLiteral.bytes then do
        let parts ← literals.mapM bytesOf?
        some (.constant span (.bytes parts.flatten))
      else if literals.any TextLiteral.bytes then none
      else do
        let parts ← literals.mapM partsOf?
        if literals.any TextLiteral.formatted then do
          let es ← embeddedParts fuel span (mergeLiterals parts.flatten)
          some (.joined span es)
        else some (.constant span (.text (literalTextOf parts.flatten)))

/-- The parts of a text with embedded expressions. -/
def embeddedParts : Nat → Span → List FormatPart → Option (List Expr)
  | 0, _, _ => none
  | _ + 1, _, [] => some []
  | fuel + 1, span, .literal cs :: rest => do
      let others ← embeddedParts fuel span rest
      some (.constant span (.text cs) :: others)
  | fuel + 1, span, .expression source conversion format :: rest => do
      let value ← embeddedExpression fuel source
      let others ← embeddedParts fuel span rest
      match format with
      | none => some (embeddedOf span value conversion none :: others)
      | some parts => do
          let parts ← embeddedParts fuel span (mergeLiterals parts)
          some (embeddedOf span value conversion (some parts) :: others)

/-- An embedded expression, read as if it stood in round brackets. Its places count from there. -/
def embeddedExpression : Nat → List Char → Option Expr
  | 0, _ => none
  | fuel + 1, source =>
      if source.all isEmbeddedBlank then none
      else do
        let tokens ← tokens? ('(' :: source ++ [')', '\n'])
        let (e, c) ← atom fuel (.ofTokens tokens)
        let c ← c.past? .lineEnd
        if c.isAt .fileEnd then some e else none

/-- What stands between round brackets: a tuple, a generator, or an expression for itself. -/
def group : Nat → Place → Cursor → Option (Expr × Cursor)
  | 0, _, _ => none
  | fuel + 1, start, c =>
      if c.isAtWord "yield" then do
        let (e, c) ← handedOut fuel c
        let c ← c.symbol? ")"
        some (e, c)
      else if c.isAtSymbol ")" then some (.sequence (c.next.spanFrom start) .tuple [], c.next)
      else do
        let (first, c') ← starNamedExpression fuel c
        if c'.isAtSymbol "," then do
          let (items, c) ← itemsAfter first (starNamedExpression fuel) fuel ")" c'
          some (.sequence (c.spanFrom start) .tuple items, c)
        else if c.isAtSymbol "*" then none
        else if c'.isAtClause then do
          let (clauses, c) ← clauses fuel c'
          let c ← c.symbol? ")"
          some (.comprehension (c.spanFrom start) "(" ")" first.plainText clauses, c)
        else do
          let c ← c'.symbol? ")"
          some (first, c)

/-- What stands between square brackets: items, or a comprehension. -/
def listDisplay : Nat → Place → Cursor → Option (Expr × Cursor)
  | 0, _, _ => none
  | fuel + 1, start, c =>
      match c.symbol? "]" with
      | some c => some (.sequence (c.spanFrom start) .list [], c)
      | none => do
          let (first, c') ← starNamedExpression fuel c
          if c'.isAtClause && !c.isAtSymbol "*" then do
            let (clauses, c) ← clauses fuel c'
            let c ← c.symbol? "]"
            some (.comprehension (c.spanFrom start) "[" "]" first.plainText clauses, c)
          else do
            let (items, c) ← itemsAfter first (starNamedExpression fuel) fuel "]" c'
            some (.sequence (c.spanFrom start) .list items, c)

/-- What stands between braces: a table, a set, or a comprehension of either. -/
def braceDisplay : Nat → Place → Cursor → Option (Expr × Cursor)
  | 0, _, _ => none
  | fuel + 1, start, c => do
      let closing := "\x7d"
      if c.isAtSymbol closing || c.isAtSymbol "**" then do
        let (entries, c) ← displayItems (entry fuel) fuel closing c
        some (.dict (c.spanFrom start) entries, c)
      else if c.isAtSymbol "*" then do
        let (items, c) ← displayItems (starNamedExpression fuel) fuel closing c
        some (.sequence (c.spanFrom start) .set items, c)
      else do
        let (first, c') ← namedExpression fuel c
        if c'.isAtClause then do
          let (clauses, c) ← clauses fuel c'
          let c ← c.symbol? closing
          some (.comprehension (c.spanFrom start) "\x7b" closing first.plainText clauses, c)
        else if c'.isAtSymbol ":" && !c.isAtNaming then do
          let (value, c') ← expression fuel c'.next
          if c'.isAtClause then do
            let (clauses, c) ← clauses fuel c'
            let c ← c.symbol? closing
            let element := entryText first value
            some (.comprehension (c.spanFrom start) "\x7b" closing element clauses, c)
          else do
            let (entries, c) ← itemsAfter (some first, value) (entry fuel) fuel closing c'
            some (.dict (c.spanFrom start) entries, c)
        else do
          let (items, c) ← itemsAfter first (starNamedExpression fuel) fuel closing c'
          some (.sequence (c.spanFrom start) .set items, c)

/-- An entry of a table. -/
def entry : Nat → Cursor → Option ((Option Expr × Expr) × Cursor)
  | 0, _ => none
  | fuel + 1, c =>
      match c.symbol? "**" with
      | some c => do
          let (e, c) ← operation fuel Strength.bits c
          some ((none, e), c)
      | none => do
          let (key, c) ← expression fuel c
          let c ← c.symbol? ":"
          let (value, c) ← expression fuel c
          some ((some key, value), c)

/-- The clauses of a comprehension, at least one. -/
def clauses : Nat → Cursor → Option (List Clause × Cursor)
  | 0, _ => none
  | fuel + 1, c => do
      let isAsync := c.isAtWord "async"
      let c := if isAsync then c.next else c
      let c ← c.word? "for"
      let (target, c) ← targets fuel c
      let c ← c.word? "in"
      let (source, c) ← disjunction fuel c
      let (conditions, c) ← conditions fuel c
      if c.isAtClause then do
        let (others, c) ← clauses fuel c
        some (⟨isAsync, target, source, conditions⟩ :: others, c)
      else some ([⟨isAsync, target, source, conditions⟩], c)

/-- The conditions of a clause; there may be none. -/
def conditions : Nat → Cursor → Option (List Expr × Cursor)
  | 0, _ => none
  | fuel + 1, c =>
      match c.word? "if" with
      | none => some ([], c)
      | some c => do
          let (e, c) ← disjunction fuel c
          let (others, c) ← conditions fuel c
          some (e :: others, c)

/-- What a loop assigns to. -/
def targets : Nat → Cursor → Option (Expr × Cursor)
  | 0, _ => none
  | fuel + 1, c => do
      let (items, comma, c') ← commaList (starExpressionOf (operation fuel Strength.bits)) fuel c
      let e := tupleOf (c'.spanFrom c.start) items comma
      if e.isTarget true then some (e, c') else none

/-- A value that is handed out: the word for it, and what follows. -/
def handedOut : Nat → Cursor → Option (Expr × Cursor)
  | 0, _ => none
  | fuel + 1, c => do
      let c' ← c.word? "yield"
      match c'.word? "from" with
      | some c' => do
          let (e, c') ← expression fuel c'
          some (.handedOut (c'.spanFrom c.start) "yield from" (some e), c')
      | none =>
          let (value, c') := optional (expressions fuel) c'
          some (.handedOut (c'.spanFrom c.start) "yield" value, c')

/-- An expression, or one with a name that its value is given to. -/
def namedExpression : Nat → Cursor → Option (Expr × Cursor)
  | 0, _ => none
  | fuel + 1, c =>
      match c.name?.bind fun (name, c) => (c.symbol? ":=").map fun c => (name, c) with
      | some (name, c') => do
          let (e, c') ← expression fuel c'
          some (.named (c'.spanFrom c.start) name e, c')
      | none => expression fuel c

/-- An expression between brackets, which may be spread or give its value a name. -/
def starNamedExpression : Nat → Cursor → Option (Expr × Cursor)
  | 0, _ => none
  | fuel + 1, c =>
      if c.isAtSymbol "*" then starExpression fuel c else namedExpression fuel c

/-- An expression that may be spread. -/
def starExpression : Nat → Cursor → Option (Expr × Cursor)
  | 0, _ => none
  | fuel + 1, c =>
      if c.isAtSymbol "*" then starExpressionOf (operation fuel Strength.bits) c
      else expression fuel c

/-- Expressions with commas between them: one, or a tuple. -/
def expressions : Nat → Cursor → Option (Expr × Cursor)
  | 0, _ => none
  | fuel + 1, c => do
      let (items, comma, c') ← commaList (starExpression fuel) fuel c
      some (tupleOf (c'.spanFrom c.start) items comma, c')

end

end MarkerLint.Source
