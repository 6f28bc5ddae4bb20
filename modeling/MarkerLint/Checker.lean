import MarkerLint.Inspection

/-!
# Checkers

A checker runs one rule for a host linter. It declares the definitions of the rule's messages and
hands the host a symbol and the texts that fill the template, for each violation whose message is
registered.
-/

namespace MarkerLint

open Source

/-- A message that a checker hands to its host. -/
structure EmittedMessage where
  symbol : String
  arguments : List (String × CodeText)
  span : Span

/-- A checker: its rule, the definitions it declares, and the symbols of the rule's messages. -/
structure Checker where
  rule : Rule
  definitions : Table MessageDefinition
  symbols : Table String

namespace Checker

/-- The name of the checker of a rule. -/
def nameOf (ruleId : String) : String :=
  "aabha-" ++ ruleId

/-- The name of a checker. -/
def name (c : Checker) : String :=
  nameOf c.rule.id

/-- The checker of a rule with the messages of a registry. -/
def ofRule (r : Registry) (rule : Rule) : Except Fault Checker := do
  let definitions ← r.definitions rule.id
  let symbols ← r.symbols rule.id
  .ok ⟨rule, definitions, symbols⟩

/-- The checkers of all rules, in the order of the catalog. -/
def ofRules (r : Registry) : List Rule → Except Fault (List Checker)
  | [] => .ok []
  | rule :: rest => do
      let c ← ofRule r rule
      let cs ← ofRules r rest
      .ok (c :: cs)

/-- The message for a violation, if it has a symbol. -/
def messageFor? (c : Checker) (v : Violation) : Option EmittedMessage :=
  (c.symbols.get? v.messageId).map fun symbol => ⟨symbol, v.data, v.span⟩

/-- The messages handed to the host on visiting a class. -/
def visit (c : Checker) (path : String) (d : Declaration) : List EmittedMessage :=
  (Inspection.violationsOf c.rule (markersOf path d)).filterMap c.messageFor?

/-- The log entry on a violation without a symbol. -/
def unregistered? (c : Checker) (v : Violation) : Option LogEntry :=
  match c.symbols.get? v.messageId with
  | some _ => none
  | none => some ⟨.debug, .checker, .ok (c.name ++ ": unregistered message " ++ v.messageId)⟩

/-- The log entries of visiting a class. -/
def visitLog (c : Checker) (path : String) (d : Declaration) : List LogEntry :=
  let markers := markersOf path d
  extractionLog markers ++
    match c.rule.check markers with
    | .ok violations => violations.filterMap c.unregistered?
    | .error _ => [⟨.debug, .checker, .ok (c.name ++ " failed on " ++ d.name)⟩]

end Checker

end MarkerLint
