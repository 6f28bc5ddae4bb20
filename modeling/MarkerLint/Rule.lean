import MarkerLint.Marker
import MarkerLint.Value.Text

/-!
# Rules and violations

A rule looks at the markers of one declaration whose names it understands and whose arguments could
be read, and reports violations: which message applies, and the texts that fill it.
-/

namespace MarkerLint

/-- How grave the findings of a rule are. -/
inductive RuleType where
  | problem
  | suggestion
deriving DecidableEq, Repr

/-- The name of a rule type. -/
def RuleType.name : RuleType → String
  | .problem => "problem"
  | .suggestion => "suggestion"

/-- A message of a rule with the texts that fill it. -/
structure Finding where
  messageId : String
  data : List (String × CodeText)
deriving DecidableEq, Repr

/-- A change of the source that would end a violation. -/
structure Edit where
  span : Source.Span
  replacement : String
deriving DecidableEq, Repr

/-- A finding of a rule at a place. -/
structure Violation where
  ruleId : String
  messageId : String
  location : String
  span : Source.Span
  data : List (String × CodeText)
  fix : Option Edit := none
deriving DecidableEq, Repr

/-- A rule: what it is about, the markers it understands, the messages it may give, and its check of
one marker. -/
structure Rule where
  id : String
  type : RuleType
  description : String
  markerNames : List String
  messageIds : List String
  findings : Marker → Except Fault (List Finding)

namespace Rule

/-- The rule looks at the marker. -/
def understands (r : Rule) (m : Marker) : Bool :=
  r.markerNames.contains m.name && m.isParseable

/-- The violation that a finding on a marker is. -/
def violation (r : Rule) (m : Marker) (f : Finding) : Violation :=
  { ruleId := r.id
    messageId := f.messageId
    location := m.location
    span := m.span
    data := f.data }

/-- The violations on one marker. -/
def checkMarker (r : Rule) (m : Marker) : Except Fault (List Violation) :=
  (fun found => found.map (r.violation m)) <$> r.findings m

/-- The violations on the markers of one declaration. -/
def check (r : Rule) : List Marker → Except Fault (List Violation)
  | [] => .ok []
  | m :: rest =>
      if r.understands m then do
        let here ← r.checkMarker m
        let others ← r.check rest
        .ok (here ++ others)
      else r.check rest

end Rule

end MarkerLint
