import MarkerLint.Text.Search
import MarkerLint.Value.Text

/-!
# The registry of messages

For each rule the registry holds an entry: the rule's type and number, and its messages with their
templates, numbers and symbols. The registry is a document that may hold anything, so every reader
says what it makes of a value of the wrong kind. The code of a message is never stored: it is put
together from the letter of the rule's category, the rule's number and the message's.
-/

namespace MarkerLint

/-- A registry: a table of entries, if the document is one. -/
structure Registry where
  document : Value

/-- The definition of a message: its template, its symbol, and the description of its rule. -/
structure MessageDefinition where
  template : String
  symbol : String
  description : String
deriving DecidableEq, Repr

namespace Registry

/-- What the keys of rules start with. -/
def keyStart : String := "aabha."

/-- The key under which a rule is registered. An id that already is a key stands for itself. -/
def keyOf (ruleId : String) : String :=
  if Text.beginsWith keyStart ruleId then ruleId else keyStart ++ ruleId

/-- The entry of a rule, if there is one and it is a table. -/
def entry? (r : Registry) (ruleId : String) : Except Fault (Option (Table Value)) :=
  (fun (v : Option Value) => v.bind Data.entries?) <$> r.document.get? (keyOf ruleId)

/-- The text of a field, or a text to use where the field is missing. -/
def fieldText (t : Table Value) (key fallback : String) : Except Fault String :=
  ((t.get? key).getD (.text fallback)).display

/-- The letter of the category of a rule type: errors unless it is a suggestion. -/
def categoryLetter (ruleType : String) : String :=
  if ruleType = "suggestion" then "W" else "E"

/-- The letter of the category of an entry. -/
def category (entry : Table Value) : Except Fault String :=
  categoryLetter <$> fieldText entry "rule_type" "problem"

/-- A number padded with zeros to two characters, after its sign. -/
def twoDigits (s : String) : String :=
  if s.length ≥ 2 then s
  else
    match s.toList with
    | [] => "00"
    | c :: _ => if c == '+' || c == '-' then s ++ "0" else "0" ++ s

/-- The code of a message of an entry. -/
def messageCode (entry message : Table Value) : Except Fault String := do
  let letter ← category entry
  let checker ← fieldText entry "checker_id" "99"
  let number ← fieldText message "number" "01"
  .ok (letter ++ twoDigits checker ++ twoDigits number)

/-- The messages of an entry; none if the field is missing or not given. -/
def messagesOf (use : TableUse) (entry : Table Value) : Except Fault (Table Value) :=
  match Data.given? (entry.get? "messages") with
  | none => .ok []
  | some v => v.asTable use

/-- A message of a rule, if it is registered as a table. -/
def message? (r : Registry) (ruleId messageId : String) : Except Fault (Option (Table Value)) := do
  match ← r.entry? ruleId with
  | none => .ok none
  | some [] => .ok none
  | some entry => do
      let messages ← messagesOf .get entry
      .ok ((messages.get? messageId).bind Data.entries?)

/-- The template of a message, if it is given. -/
def template? (message : Table Value) : Option Value :=
  Data.given? (message.get? "message_template")

/-- The symbol of a message: its own, or else its id. -/
def symbolText (messageId : String) (message : Table Value) : Except Fault String :=
  match Data.given? (message.get? "symbol") with
  | some v => v.display
  | none => .ok messageId

/-- The description of an entry: the short one, the display name, or else the rule's id. -/
def describe (ruleId : String) (entry : Table Value) : Value :=
  ((Data.given? (entry.get? "short_description")).or
    (Data.given? (entry.get? "display_name"))).getD (.text ruleId)

/-- The definition of a message under its code, if the message has a template. -/
def definition? (ruleId : String) (entry : Table Value) (messageId : String) (message : Value) :
    Except Fault (Option (String × MessageDefinition)) :=
  match message.entries? with
  | none => .ok none
  | some fields =>
      match template? fields with
      | none => .ok none
      | some template => do
          let code ← messageCode entry fields
          let symbol ← symbolText messageId fields
          let text ← template.display
          let description ← (describe ruleId entry).display
          .ok (some (code, ⟨text, symbol, description⟩))

/-- Writes the definitions of messages under their codes, one after the other. -/
def addDefinitions (ruleId : String) (entry : Table Value) (t : Table MessageDefinition) :
    List (String × Value) → Except Fault (Table MessageDefinition)
  | [] => .ok t
  | (id, message) :: rest => do
      match ← definition? ruleId entry id message with
      | none => addDefinitions ruleId entry t rest
      | some (code, d) => addDefinitions ruleId entry (t.insert code d) rest

/-- The definitions of the messages of a rule under their codes. -/
def definitions (r : Registry) (ruleId : String) : Except Fault (Table MessageDefinition) := do
  match ← r.entry? ruleId with
  | none => .ok []
  | some [] => .ok []
  | some entry => do
      let messages ← messagesOf .items entry
      addDefinitions ruleId entry [] messages

/-- The symbols of the messages that are tables, in order. -/
def symbolEntries : List (String × Value) → Except Fault (List (String × String))
  | [] => .ok []
  | (id, .table fields) :: rest => do
      let symbol ← symbolText id fields
      let symbols ← symbolEntries rest
      .ok ((id, symbol) :: symbols)
  | _ :: rest => symbolEntries rest

/-- The symbol of each message of a rule. -/
def symbols (r : Registry) (ruleId : String) : Except Fault (Table String) := do
  match ← r.entry? ruleId with
  | none => .ok []
  | some [] => .ok []
  | some entry => do
      let messages ← messagesOf .items entry
      symbolEntries messages

end Registry

end MarkerLint
