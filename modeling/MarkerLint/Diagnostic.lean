import MarkerLint.Registry
import MarkerLint.Rule
import MarkerLint.Template

/-!
# Diagnostics

A violation becomes a diagnostic when its message is registered with a template: the code and symbol
of the message, the severity of its category, the filled template, and the place of the marker.
-/

namespace MarkerLint

/-- How grave a diagnostic is. -/
inductive Severity where
  | error
  | warning
deriving DecidableEq, Repr

/-- The name of a severity. -/
def Severity.name : Severity → String
  | .error => "error"
  | .warning => "warning"

/-- The severity that a code stands for: its first letter tells errors. -/
def Severity.ofCode (code : String) : Severity :=
  if code.toList.head? = some 'E' then .error else .warning

/-- A violation in the words of its registered message. A place that is missing reads as zero, the
end of the place stays missing. -/
structure Diagnostic where
  ruleId : String
  code : String
  symbol : String
  severity : Severity
  message : CodeText
  line : Int
  column : Int
  endLine : Option Int
  endColumn : Option Int
  fix : Option Edit := none
deriving DecidableEq, Repr

namespace Diagnostic

/-- The diagnostic of a violation whose entry, message and template are at hand. -/
def build (v : Violation) (entry message : Table Value) (template : Value) :
    Except Fault Diagnostic := do
  let code ← Registry.messageCode entry message
  let symbol ← Registry.symbolText v.messageId message
  let text ← template.display
  .ok
    { ruleId := v.ruleId
      code := code
      symbol := symbol
      severity := .ofCode code
      message := Template.fill text (Table.ofList v.data)
      line := v.span.line.getD 0
      column := v.span.column.getD 0
      endLine := v.span.endLine
      endColumn := v.span.endColumn
      fix := v.fix }

/-- The diagnostic of a violation; none if its message is not registered with a template. -/
def ofViolation? (r : Registry) (v : Violation) : Except Fault (Option Diagnostic) := do
  let entry ← r.entry? v.ruleId
  let message ← r.message? v.ruleId v.messageId
  match entry, message with
  | some entry, some message =>
      match Registry.template? message with
      | some template => some <$> build v entry message template
      | none => .ok none
  | _, _ => .ok none

/-- The diagnostics of violations, in order. -/
def ofViolations (r : Registry) : List Violation → Except Fault (List Diagnostic)
  | [] => .ok []
  | v :: rest => do
      let d ← ofViolation? r v
      let ds ← ofViolations r rest
      .ok (d.toList ++ ds)

end Diagnostic

end MarkerLint
