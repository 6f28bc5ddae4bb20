import MarkerLint.Registry.Packaged
import MarkerLint.Text.Case

/-!
# Guidance

What the registry says to a person about a rule: its name, and what to do about its findings. A rule
is found by its id, and also by the code or the symbol of one of its messages.
-/

namespace MarkerLint

/-- The registry as guidance reads it: a table of entries, empty where the document is none. -/
structure Guidance where
  entries : Table Value

namespace Guidance

/-- The guidance of a document. Without one, or without a table in it, there are no entries. -/
def ofDocument (document : Option Value) : Guidance :=
  ⟨(document.bind Data.entries?).getD []⟩

/-- The guidance of the packaged registry. -/
def packaged : Guidance :=
  ofDocument (some Registry.packaged.document)

/-- The registry of the entries. -/
def registry (g : Guidance) : Registry :=
  ⟨.table g.entries⟩

/-- The entry of a rule, if there is one and it is a table. -/
def entry? (g : Guidance) (ruleId : String) : Option (Table Value) :=
  (g.entries.get? (Registry.keyOf ruleId)).bind Data.entries?

/-- An entry that holds anything. -/
def nonempty? (entry : Option (Table Value)) : Option (Table Value) :=
  entry.filter fun t => !t.isEmpty

/-- The name of a rule that has none in the registry: the words of its id in title case. -/
def nameFromId (ruleId : String) : String :=
  Text.titleText (Text.replaceChar '-' ' ' ruleId)

/-- The name of a rule: the display name, the short description, or else the words of its id. -/
def displayName (g : Guidance) (ruleId : String) : Except Fault String :=
  match nonempty? (g.entry? ruleId) with
  | none => .ok (nameFromId ruleId)
  | some entry =>
      (((Data.given? (entry.get? "display_name")).or
        (Data.given? (entry.get? "short_description"))).getD (.text (nameFromId ruleId))).display

/-- The key belongs to a rule. -/
def isRuleKey (key : String) : Bool :=
  Text.beginsWith Registry.keyStart key && !Text.endsWith "._default" key

/-- The message is known under the name, which is a symbol or a code. -/
def answersTo (entry message : Table Value) (name : String) : Except Fault Bool := do
  if ((message.get? "symbol").getD .null).isText name then .ok true
  else
    let code ← Registry.messageCode entry message
    .ok (code == name)

/-- One of the messages is known under the name. Messages that are no tables are passed over. -/
def anyAnswersTo (entry : Table Value) (name : String) : List (String × Value) → Except Fault Bool
  | [] => .ok false
  | (_, .table message) :: rest => do
      if ← answersTo entry message name then .ok true else anyAnswersTo entry name rest
  | _ :: rest => anyAnswersTo entry name rest

/-- The first of the entries with a message that is known under the name. -/
def findAmong (name : String) : List (String × Value) → Except Fault (Option (Table Value))
  | [] => .ok none
  | (key, document) :: rest =>
      if isRuleKey key then do
        let entry ← document.asTable .get
        let messages ← Registry.messagesOf .values entry
        if ← anyAnswersTo entry name messages then .ok (some entry) else findAmong name rest
      else findAmong name rest

/-- The entry of the rule with a message of that code or symbol. -/
def find? (g : Guidance) (name : String) : Except Fault (Option (Table Value)) :=
  findAmong name g.entries

/-- The entry that a rule's id, a code or a symbol leads to. -/
def entryFor? (g : Guidance) (name : String) : Except Fault (Option (Table Value)) :=
  match nonempty? (g.entry? name) with
  | some entry => .ok (some entry)
  | none => g.find? name

/-- The instructions that an entry gives. -/
def instructionsOf? (entry : Table Value) : Option Value :=
  Data.given? (entry.get? "manual_instructions")

/-- What to do where the registry gives no instructions at all. -/
def lastResort : String := "Correct the marker metadata at the reported location."

/-- The instructions that stand in for missing ones. -/
def fallbackInstructions (g : Guidance) : Except Fault String :=
  match Data.given? (g.entries.get? Registry.fallbackKey) with
  | none => .ok lastResort
  | some document => do
      let entry ← document.asTable .get
      match instructionsOf? entry with
      | some v => v.display
      | none => .ok lastResort

/-- What to do about the findings of a rule, found by its id or by a code or symbol. -/
def instructions (g : Guidance) (name : String) : Except Fault String := do
  let entry ← g.entryFor? name
  match entry.bind instructionsOf? with
  | some v => v.display
  | none => g.fallbackInstructions

end Guidance

end MarkerLint
