import MarkerLint.Source.Tree

/-!
# Targets

The expressions that a value may be assigned to: names, attributes and items, and sequences of
targets. Where a sequence is taken apart, a target may have a star before it.
-/

namespace MarkerLint.Source

mutual

/-- A value may be assigned to the expression: a name, a part of something, or several of them. -/
def Expr.isTarget (starAllowed : Bool) : Expr → Bool
  | .name .. => true
  | .attribute .. => true
  | .subscript .. => true
  | .starred _ e => starAllowed && e.isTarget starAllowed
  | .sequence _ kind items => kind != .set && areTargets starAllowed items
  | _ => false

/-- A value may be assigned to each of the expressions. -/
def areTargets (starAllowed : Bool) : List Expr → Bool
  | [] => true
  | e :: rest => e.isTarget starAllowed && areTargets starAllowed rest

end

/-- The expression is a single place for a value: a name, or a part of something. -/
def Expr.isPlace : Expr → Bool
  | .name .. => true
  | .attribute .. => true
  | .subscript .. => true
  | _ => false

end MarkerLint.Source
