import MarkerLint.Number.Binary64
import MarkerLint.Text.CodePoint

/-!
# Syntax trees of modules

The part of a module's syntax that markers depend on: classes and functions with their decorators,
nested to any depth, and expressions. An expression that is never read as data is kept only as its
text and how tightly it binds.
-/

namespace MarkerLint.Source

/-- Where a node stands in its file: lines count from one, columns in bytes from zero. A tree that
was not read from a text may lack any of the four. -/
structure Span where
  line : Option Int
  column : Option Int
  endLine : Option Int
  endColumn : Option Int
deriving DecidableEq, Repr, Inhabited

/-- A constant that is written out in the source. -/
inductive Constant where
  | null
  | boolean (b : Bool)
  | text (s : CodeText)
  | integer (i : Int)
  | float (x : Binary64)
  | imaginary (x : Binary64)
  | bytes (b : List UInt8)
  | ellipsis
deriving DecidableEq, Repr

/-- The three bracketed sequences. -/
inductive SequenceKind where
  | list
  | tuple
  | set
deriving DecidableEq, Repr

/-- An expression. -/
inductive Expr where
  /-- A plain name. -/
  | name (span : Span) (id : String)
  /-- `base.attr` -/
  | attribute (span : Span) (base : Expr) (attr : String)
  /-- A call; a keyword argument without a name spreads a table. -/
  | call (span : Span) (callee : Expr) (args : List Expr) (keywords : List (Option String × Expr))
  /-- A constant. -/
  | constant (span : Span) (value : Constant)
  /-- An operator before its operand. -/
  | unary (span : Span) (op : String) (operand : Expr)
  /-- A list, tuple or set. -/
  | sequence (span : Span) (kind : SequenceKind) (items : List Expr)
  /-- A table; an entry without a key spreads another table. -/
  | dict (span : Span) (entries : List (Option Expr × Expr))
  /-- A text with embedded expressions: constant parts and embedded ones. -/
  | joined (span : Span) (parts : List Expr)
  /-- An embedded expression, with the text of its conversion and format. -/
  | embedded (span : Span) (value : Expr) (format : String)
  /-- `value[index]` -/
  | subscript (span : Span) (value : Expr) (index : Expr)
  /-- `*value` -/
  | starred (span : Span) (value : Expr)
  /-- Any other expression: how tightly it binds, and its text if it can be written. -/
  | computed (span : Span) (strength : Nat) (text : Option String)
  /-- A name whose text is lost. -/
  | malformed (span : Span)
deriving Inhabited

/-- Where an expression stands. -/
def Expr.span : Expr → Span
  | .name s _ => s
  | .attribute s _ _ => s
  | .call s _ _ _ => s
  | .constant s _ => s
  | .unary s _ _ => s
  | .sequence s _ _ => s
  | .dict s _ => s
  | .joined s _ => s
  | .embedded s _ _ => s
  | .subscript s _ _ => s
  | .starred s _ => s
  | .computed s _ _ => s
  | .malformed s => s

/-- A statement, as far as declarations are concerned. -/
inductive Stmt where
  /-- A class with its decorators and the statements in it. -/
  | classDef (span : Span) (name : String) (decorators : List Expr) (body : List Stmt)
  /-- A function with its decorators and the statements in it. -/
  | functionDef (span : Span) (name : String) (decorators : List Expr) (body : List Stmt)
  /-- Any other statement that holds statements, in source order. -/
  | block (body : List Stmt)
  /-- A statement that holds no statements. -/
  | simple
deriving Inhabited

/-- A module: the file it was read from, its name, and its statements. -/
structure Module where
  file : Option String
  name : String
  body : List Stmt

/-- The path that locations in the module start with. -/
def Module.path (m : Module) : String :=
  match m.file with
  | some file => if file.isEmpty then m.name else file
  | none => m.name

/-- A class or function with its decorators. -/
structure Declaration where
  name : String
  span : Span
  decorators : List Expr

mutual

/-- The classes of a statement, each before those nested in it. -/
def Stmt.classes : Stmt → List Declaration
  | .classDef span name decorators body => ⟨name, span, decorators⟩ :: classesOf body
  | .functionDef _ _ _ body => classesOf body
  | .block body => classesOf body
  | .simple => []

/-- The classes of a sequence of statements, in source order. -/
def classesOf : List Stmt → List Declaration
  | [] => []
  | s :: rest => s.classes ++ classesOf rest

end

mutual

/-- The functions of a statement, each before those nested in it. -/
def Stmt.functions : Stmt → List Declaration
  | .classDef _ _ _ body => functionsOf body
  | .functionDef span name decorators body => ⟨name, span, decorators⟩ :: functionsOf body
  | .block body => functionsOf body
  | .simple => []

/-- The functions of a sequence of statements, in source order. -/
def functionsOf : List Stmt → List Declaration
  | [] => []
  | s :: rest => s.functions ++ functionsOf rest

end

/-- The classes of a module. -/
def Module.classes (m : Module) : List Declaration :=
  classesOf m.body

/-- The functions of a module. -/
def Module.functions (m : Module) : List Declaration :=
  functionsOf m.body

theorem classesOf_append (xs ys : List Stmt) :
    classesOf (xs ++ ys) = classesOf xs ++ classesOf ys := by
  induction xs with
  | nil => simp [classesOf]
  | cons s rest ih => simp [classesOf, ih]

end MarkerLint.Source
