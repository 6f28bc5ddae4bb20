import MarkerLint.Source.Grammar.Pattern

/-!
# Reading statements

Statements are read for the classes and functions in them. Of every other statement only the
statements inside it are kept; its expressions are read so that a malformed one is refused.
-/

namespace MarkerLint.Source

/-- Names with commas between them. -/
def names : Nat → Cursor → Option Cursor
  | 0, _ => none
  | fuel + 1, c => do
      let (_, c) ← c.name?
      match c.symbol? "," with
      | some c => names fuel c
      | none => some c

/-- The new name of something, if it is given one. -/
def renamed (c : Cursor) : Option Cursor :=
  match c.word? "as" with
  | some c => c.name?.map Prod.snd
  | none => some c

/-- The modules of an import. -/
def importedModules : Nat → Cursor → Option Cursor
  | 0, _ => none
  | fuel + 1, c => do
      let (_, c) ← dottedName fuel c
      let c ← renamed c
      match c.symbol? "," with
      | some c => importedModules fuel c
      | none => some c

/-- A name that is imported, with its new name. -/
def importedName (c : Cursor) : Option (Unit × Cursor) := do
  let (_, c) ← c.name?
  let c ← renamed c
  some ((), c)

/-- What is imported from a module: everything, or names, which brackets may stand around. A comma
after the last name needs the brackets. -/
def importedNames (fuel : Nat) (c : Cursor) : Option Cursor :=
  match c.symbol? "*", c.symbol? "(" with
  | some c, _ => some c
  | _, some c => do
      let (_, _, c) ← commaList importedName fuel c
      c.symbol? ")"
  | _, _ => do
      let (_, comma, c) ← commaList importedName fuel c
      if comma then none else some c

/-- The points before the name of a module, and whether there are any. -/
def leadingPoints : Nat → Cursor → Bool × Cursor
  | 0, c => (false, c)
  | fuel + 1, c =>
      if c.isAtSymbol "." || c.isAtSymbol "..." then (true, (leadingPoints fuel c.next).2)
      else (false, c)

/-- An import from a module after the word that begins it. -/
def importFrom (fuel : Nat) (c : Cursor) : Option Cursor := do
  let (points, c) := leadingPoints fuel c
  let c ← if points && c.isAtWord "import" then some c else (dottedName fuel c).map Prod.snd
  let c ← c.word? "import"
  importedNames fuel c

/-- The operators that change what stands on their left. -/
def assignmentOperators : List String :=
  ["+=", "-=", "*=", "@=", "/=", "%=", "&=", "|=", "^=", "<<=", ">>=", "**=", "//="]

/-- Expressions, or a value that is handed out. -/
def statementValue (fuel : Nat) (c : Cursor) : Option (Expr × Cursor) :=
  if c.isAtWord "yield" then handedOut fuel c else expressions fuel c

/-- Further equals signs with what stands after them. What is assigned to must be targets. -/
def assignments : Nat → Expr → Cursor → Option Cursor
  | 0, _, _ => none
  | fuel + 1, left, c =>
      match c.symbol? "=" with
      | none => some c
      | some c => do
          if !left.isTarget true then none
          let (e, c) ← statementValue fuel c
          assignments fuel e c

/-- An assignment of one of the kinds, or expressions. -/
def assignment (fuel : Nat) (c : Cursor) : Option Cursor := do
  let (left, c) ← statementValue fuel c
  match c.kind with
  | .symbol ":" => do
      if !left.isPlace then none
      let (_, c) ← expression fuel c.next
      match c.symbol? "=" with
      | none => some c
      | some c => (statementValue fuel c).map Prod.snd
  | .symbol op =>
      if assignmentOperators.contains op then do
        if !left.isPlace then none
        (statementValue fuel c.next).map Prod.snd
      else assignments fuel left c
  | _ => some c

/-- An expression after a word, if the word follows. -/
def afterWord (word : String) (fuel : Nat) (c : Cursor) : Option Cursor :=
  match c.word? word with
  | some c => (expression fuel c).map Prod.snd
  | none => some c

/-- What is deleted: targets without stars. -/
def deletion (fuel : Nat) (c : Cursor) : Option Cursor := do
  let (items, _, c) ← commaList (operation fuel Strength.bits) fuel c
  if areTargets false items then some c else none

/-- A statement on one line. -/
def simpleStatement (fuel : Nat) (c : Cursor) : Option Cursor :=
  match c.kind with
  | .name "pass" => some c.next
  | .name "break" => some c.next
  | .name "continue" => some c.next
  | .name "return" => some (optional (expressions fuel) c.next).2
  | .name "raise" =>
      match expression fuel c.next with
      | some (_, c) => afterWord "from" fuel c
      | none => some c.next
  | .name "assert" => do
      let (_, c) ← expression fuel c.next
      match c.symbol? "," with
      | some c => (expression fuel c).map Prod.snd
      | none => some c
  | .name "del" => deletion fuel c.next
  | .name "global" => names fuel c.next
  | .name "nonlocal" => names fuel c.next
  | .name "import" => importedModules fuel c.next
  | .name "from" => importFrom fuel c.next
  | _ => assignment fuel c

/-- Statements on one line with semicolons between them, up to the end of the line. -/
def simpleStatements : Nat → Cursor → Option (List Stmt × Cursor)
  | 0, _ => none
  | fuel + 1, c => do
      let c ← simpleStatement fuel c
      match c.past? .lineEnd, c.symbol? ";" with
      | some c, _ => some ([.simple], c)
      | none, some c =>
          match c.past? .lineEnd with
          | some c => some ([.simple], c)
          | none => do
              let (others, c) ← simpleStatements fuel c
              some (.simple :: others, c)
      | none, none => none

/-- A resource that is held, and the target it is given to. -/
def resource (fuel : Nat) (c : Cursor) : Option (Unit × Cursor) := do
  let (_, c) ← expression fuel c
  match c.word? "as" with
  | none => some ((), c)
  | some c => do
      let (e, c) ← starExpressionOf (operation fuel Strength.bits) c
      if e.isTarget true then some ((), c) else none

/-- The resources of a statement up to its colon. Brackets may stand around all of them. -/
def resources (fuel : Nat) (c : Cursor) : Option Cursor :=
  let between : Option Cursor := do
    let c ← c.symbol? "("
    let (_, _, c) ← commaList (resource fuel) fuel c
    let c ← c.symbol? ")"
    if c.isAtSymbol ":" then some c else none
  match between with
  | some c => some c
  | none => do
      let (_, comma, c) ← commaList (resource fuel) fuel c
      if comma then none else some c

/-- What a loop runs over: targets, and where they come from. -/
def loopHead (fuel : Nat) (c : Cursor) : Option Cursor := do
  let (_, c) ← targets fuel c
  let c ← c.word? "in"
  let (_, c) ← expressions fuel c
  some c

/-- The subject of a branching: an expression, or several as a sequence. -/
def subject (fuel : Nat) (c : Cursor) : Option Cursor := do
  let (_, comma, after) ← (commaList (starNamedExpression fuel) fuel c).map
    fun (items, comma, c) => ((), comma || items.length != 1, c)
  if !comma && c.isAtSymbol "*" then none else some after

/-- What a handler handles; after a star it must say so. -/
def handlerHead (fuel : Nat) (grouped : Bool) (c : Cursor) : Option Cursor :=
  if c.isAtSymbol ":" && !grouped then some c
  else do
    let (_, c) ← expression fuel c
    renamed c

/-- The expressions of decorators, each on its own line. -/
def decorators : Nat → Cursor → Option (List Expr × Cursor)
  | 0, _ => none
  | fuel + 1, c =>
      match c.symbol? "@" with
      | none => some ([], c)
      | some c => do
          let (e, c) ← namedExpression fuel c
          let c ← c.past? .lineEnd
          let (others, c) ← decorators fuel c
          some (e :: others, c)

/-- The head of a class after its name. -/
def classHead (fuel : Nat) (c : Cursor) : Option Cursor :=
  match c.symbol? "(" with
  | some c => (callArguments fuel false c).map Prod.snd
  | none => some c

/-- The head of a function after its name. -/
def functionHead (fuel : Nat) (c : Cursor) : Option Cursor := do
  let c ← c.symbol? "("
  let (_, c) ← parameters fuel true ")" c
  let c ← c.symbol? ")"
  match c.symbol? "->" with
  | some c => (expression fuel c).map Prod.snd
  | none => some c

mutual

/-- The statements up to the end of a block or of the text. -/
def statements : Nat → Cursor → Option (List Stmt × Cursor)
  | 0, _ => none
  | fuel + 1, c =>
      if c.isAt .dedent || c.isAt .fileEnd then some ([], c)
      else do
        let (here, c) ← statement fuel c
        let (others, c) ← statements fuel c
        some (here ++ others, c)

/-- A statement, or the simple statements of a line. -/
def statement : Nat → Cursor → Option (List Stmt × Cursor)
  | 0, _ => none
  | fuel + 1, c =>
      let single (r : Option (Stmt × Cursor)) : Option (List Stmt × Cursor) :=
        r.map fun (s, c) => ([s], c)
      match c.kind with
      | .symbol "@" => single do
          let (es, c) ← decorators fuel c
          declaration fuel es c
      | .name "class" => single (declaration fuel [] c)
      | .name "def" => single (declaration fuel [] c)
      | .name "if" => single (conditional fuel c.next)
      | .name "while" => single do
          let (_, c) ← namedExpression fuel c.next
          loop fuel c
      | .name "for" => single do
          let c ← loopHead fuel c.next
          loop fuel c
      | .name "with" => single do
          let c ← resources fuel c.next
          holding fuel c
      | .name "try" => single (attempt fuel c.next)
      | .name "async" =>
          match c.next.kind with
          | .name "def" => single (declaration fuel [] c)
          | .name "for" => single do
              let c ← loopHead fuel c.next.next
              loop fuel c
          | .name "with" => single do
              let c ← resources fuel c.next.next
              holding fuel c
          | _ => none
      | .name "match" =>
          match branching fuel c.next with
          | some (s, c) => some ([s], c)
          | none => simpleStatements fuel c
      | _ => simpleStatements fuel c

/-- A colon and the statements after it: on the same line, or in a block. -/
def suite : Nat → Cursor → Option (List Stmt × Cursor)
  | 0, _ => none
  | fuel + 1, c => do
      let c ← c.symbol? ":"
      match c.past? .lineEnd with
      | none => simpleStatements fuel c
      | some c => do
          let c ← c.past? .indent
          let (body, c) ← statements fuel c
          let c ← c.past? .dedent
          some (body, c)

/-- A class or a function with the decorators before it. -/
def declaration : Nat → List Expr → Cursor → Option (Stmt × Cursor)
  | 0, _, _ => none
  | fuel + 1, decorators, c =>
      match c.word? "class" with
      | some c' => do
          let (name, c') ← c'.name?
          let c' ← classHead fuel c'
          let (body, c') ← suite fuel c'
          some (.classDef (c'.spanFrom c.start) name decorators body, c')
      | none => do
          let c' ← ((c.word? "async").getD c).word? "def"
          let (name, c') ← c'.name?
          let c' ← functionHead fuel c'
          let (body, c') ← suite fuel c'
          some (.functionDef (c'.spanFrom c.start) name decorators body, c')

/-- A condition with its branches after the word that begins it. -/
def conditional : Nat → Cursor → Option (Stmt × Cursor)
  | 0, _ => none
  | fuel + 1, c => do
      let (_, c) ← namedExpression fuel c
      let (body, c) ← suite fuel c
      match c.word? "elif" with
      | some c => do
          let (other, c) ← conditional fuel c
          some (.block (body ++ [other]), c)
      | none => do
          let (others, c) ← suiteAfter fuel "else" c
          some (.block (body ++ others), c)

/-- The statements after a word, if the word follows. -/
def suiteAfter : Nat → String → Cursor → Option (List Stmt × Cursor)
  | 0, _, _ => none
  | fuel + 1, word, c =>
      match c.word? word with
      | some c => suite fuel c
      | none => some ([], c)

/-- The rest of a loop after its head. -/
def loop : Nat → Cursor → Option (Stmt × Cursor)
  | 0, _ => none
  | fuel + 1, c => do
      let (body, c) ← suite fuel c
      let (others, c) ← suiteAfter fuel "else" c
      some (.block (body ++ others), c)

/-- The rest of a statement that holds resources. -/
def holding : Nat → Cursor → Option (Stmt × Cursor)
  | 0, _ => none
  | fuel + 1, c => do
      let (body, c) ← suite fuel c
      some (.block body, c)

/-- An attempt with its handlers after the word that begins it. Without handlers it must be followed
by what is done at last. -/
def attempt : Nat → Cursor → Option (Stmt × Cursor)
  | 0, _ => none
  | fuel + 1, c => do
      let (body, c) ← suite fuel c
      if c.isAtWord "except" then do
        let grouped := c.next.isAtSymbol "*"
        let (handled, c) ← handlers fuel grouped c
        let (others, c) ← suiteAfter fuel "else" c
        let (last, c) ← suiteAfter fuel "finally" c
        some (.block (body ++ handled ++ others ++ last), c)
      else if c.isAtWord "finally" then do
        let (last, c) ← suiteAfter fuel "finally" c
        some (.block (body ++ last), c)
      else none

/-- The handlers of an attempt; all of them have a star or none has. -/
def handlers : Nat → Bool → Cursor → Option (List Stmt × Cursor)
  | 0, _, _ => none
  | fuel + 1, grouped, c =>
      match c.word? "except" with
      | none => some ([], c)
      | some c => do
          let c ← if grouped then c.symbol? "*" else some c
          let c ← handlerHead fuel grouped c
          let (body, c) ← suite fuel c
          let (others, c) ← handlers fuel grouped c
          some (body ++ others, c)

/-- A branching over patterns after the word that begins it. -/
def branching : Nat → Cursor → Option (Stmt × Cursor)
  | 0, _ => none
  | fuel + 1, c => do
      let c ← subject fuel c
      let c ← c.symbol? ":"
      let c ← c.past? .lineEnd
      let c ← c.past? .indent
      let (body, c) ← branches fuel c
      let c ← c.past? .dedent
      some (.block body, c)

/-- The branches of a branching, at least one. -/
def branches : Nat → Cursor → Option (List Stmt × Cursor)
  | 0, _ => none
  | fuel + 1, c => do
      let c ← c.word? "case"
      let c ← branchPatterns fuel c
      let c ←
        match c.word? "if" with
        | some c => (namedExpression fuel c).map Prod.snd
        | none => some c
      let (body, c) ← suite fuel c
      if c.isAt .dedent then some (body, c)
      else do
        let (others, c) ← branches fuel c
        some (body ++ others, c)

end

/-- The statements of a whole text. -/
def moduleBody (fuel : Nat) (tokens : List Token) : Option (List Stmt) := do
  let (body, c) ← statements fuel (.ofTokens tokens)
  if c.isAt .fileEnd then some body else none

end MarkerLint.Source
