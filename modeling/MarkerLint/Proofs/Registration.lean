import Mathlib.Data.List.Nodup
import MarkerLint.Checker
import MarkerLint.Registry.Packaged
import MarkerLint.Rule.Catalog
import MarkerLint.Proofs.PlainTemplate

/-!
# Entries of the packaged registry

What the readers of a registry make of an entry whose texts are all given and whose ids, codes and
symbols are distinct, and that the packaged registry holds such an entry for each rule of the
catalog, with plain templates whose fields the findings of the rule bring.
-/

namespace MarkerLint.Registry

/-- The fields that a finding with a message brings, in order. -/
def messageFields : Table (List String) :=
  [("automatedActionLongDuration", ["name", "duration"]),
   ("manualActionInstant", ["name"]),
   ("atomicActionLongDuration", ["name", "duration"]),
   ("missingValidationForPrecondition", ["name", "precondition"]),
   ("validationContradictsPrecondition", ["name", "validationRule", "precondition"]),
   ("missingBreakdown", ["name", "budget"]),
   ("breakdownMismatch", ["name", "budget", "breakdownSum"]),
   ("emptyBreakdown", ["name"]),
   ("missingTimeline", ["name"]),
   ("invalidTimeline", ["name"]),
   ("endBeforeStart", ["name", "start", "end"]),
   ("invalidDateFormat", ["name"])]

/-- The template is plain, and the findings with the message bring its fields. -/
def PackagedMessage.IsFillable (m : PackagedMessage) : Prop :=
  ∃ p pieces fields, Template.pieces? m.template = some (p :: pieces) ∧
    messageFields.get? m.id = some fields ∧ Template.fieldsOf (p :: pieces) ⊆ fields

namespace PackagedEntry

/-- The code of a message of an entry. -/
def code (e : PackagedEntry) (m : PackagedMessage) : String :=
  categoryLetter e.ruleType ++ twoDigits e.checkerId ++ twoDigits m.number

/-- The definition of a message of an entry under its code. -/
def definition (e : PackagedEntry) (m : PackagedMessage) : String × MessageDefinition :=
  (e.code m, ⟨m.template, m.symbol, e.description⟩)

/-- The entry says everything in full and tells its messages apart. -/
structure IsSound (e : PackagedEntry) : Prop where
  description_given : e.description.isEmpty = false
  symbol_given : ∀ m ∈ e.messages, m.symbol.isEmpty = false
  fillable : ∀ m ∈ e.messages, m.IsFillable
  ids_nodup : (e.messages.map (·.id)).Nodup
  codes_nodup : (e.messages.map e.code).Nodup
  symbols_nodup : (e.messages.map (·.symbol)).Nodup

theorem messageCode_fields (e : PackagedEntry) (m : PackagedMessage) :
    messageCode e.fields m.fields = .ok (e.code m) := by
  simp [messageCode, category, fieldText, fields, PackagedMessage.fields, Table.get?,
    Data.display, code]

theorem given?_text {s : String} (h : s.isEmpty = false) :
    Data.given? (some (.text s : Value)) = some (.text s) := by
  rw [Data.given?, Option.filter_some, if_pos]
  simp [Data.isGiven, h]

theorem symbolText_fields {m : PackagedMessage} (h : m.symbol.isEmpty = false) (id : String) :
    symbolText id m.fields = .ok m.symbol := by
  have hget : m.fields.get? "symbol" = some (.text m.symbol) := rfl
  rw [symbolText, hget, given?_text h]
  rfl

theorem template?_fields {m : PackagedMessage} (h : m.IsFillable) :
    template? m.fields = some (.text m.template) := by
  obtain ⟨p, pieces, fields, hpieces, -, -⟩ := h
  have hget : m.fields.get? "message_template" = some (.text m.template) := rfl
  rw [template?, hget, given?_text (Template.isEmpty_eq_false_of_pieces? hpieces)]

theorem messagesOf_fields (use : TableUse) (e : PackagedEntry) :
    messagesOf use e.fields = .ok e.messageTable := by
  have hget : e.fields.get? "messages" = some (.table e.messageTable) := rfl
  rw [messagesOf, hget]
  cases e.messageTable <;> rfl

theorem describe_fields {e : PackagedEntry} (h : e.description.isEmpty = false) (ruleId : String) :
    describe ruleId e.fields = .text e.description := by
  have hget : e.fields.get? "short_description" = some (.text e.description) := rfl
  rw [describe, hget, given?_text h]
  rfl

theorem definition?_fields {e : PackagedEntry} (h : e.IsSound) {m : PackagedMessage}
    (hm : m ∈ e.messages) (ruleId : String) :
    definition? ruleId e.fields m.id (.table m.fields) = .ok (some (e.definition m)) := by
  simp only [definition?, Data.entries?, template?_fields (h.fillable m hm), messageCode_fields,
    symbolText_fields (h.symbol_given m hm), describe_fields h.description_given, Data.display]
  rfl

/-- The symbols of messages, in order. -/
theorem symbolEntries_messages {messages : List PackagedMessage}
    (h : ∀ m ∈ messages, m.symbol.isEmpty = false) :
    symbolEntries (messages.map fun m => (m.id, .table m.fields)) =
      .ok (messages.map fun m => (m.id, m.symbol)) := by
  induction messages with
  | nil => rfl
  | cons m rest ih =>
      rw [List.map_cons, symbolEntries, symbolText_fields (h m (by simp)),
        ih fun n hn => h n (List.mem_cons_of_mem _ hn)]
      rfl

/-- Every definition of messages with codes of their own is kept, in order. -/
theorem addDefinitions_messages {e : PackagedEntry} (h : e.IsSound) (ruleId : String)
    {messages : List PackagedMessage} (hsub : messages ⊆ e.messages) (t : Table MessageDefinition)
    (hn : (t.keys ++ messages.map e.code).Nodup) :
    addDefinitions ruleId e.fields t (messages.map fun m => (m.id, .table m.fields)) =
      .ok (t ++ messages.map e.definition) := by
  induction messages generalizing t with
  | nil => simp [addDefinitions]
  | cons m rest ih =>
      have hm : m ∈ e.messages := hsub (by simp)
      have hfresh : e.code m ∉ t.keys := fun hk =>
        (List.nodup_append.mp hn).2.2 _ hk (e.code m) (by simp) rfl
      have hins : t.insert (e.code m) (e.definition m).2 = t ++ [e.definition m] :=
        Table.insert_of_notMem hfresh _
      have hrest := ih (fun n hr => hsub (List.mem_cons_of_mem _ hr)) (t ++ [e.definition m]) (by
        simpa [Table.keys, definition] using hn)
      rw [List.map_cons, addDefinitions, definition?_fields h hm]
      calc
        addDefinitions ruleId e.fields (t.insert (e.code m) (e.definition m).2)
            (rest.map fun m => (m.id, .table m.fields))
          = .ok (t ++ [e.definition m] ++ rest.map e.definition) := by rw [hins, hrest]
        _ = .ok (t ++ (m :: rest).map e.definition) := by
          rw [List.map_cons, List.append_assoc, List.singleton_append]

end PackagedEntry

section Readers

variable {registry : Registry} {e : PackagedEntry}
  (hentry : registry.entry? e.ruleId = .ok (some e.fields))

include hentry

theorem message?_of_entry (h : e.IsSound) {m : PackagedMessage} (hm : m ∈ e.messages) :
    registry.message? e.ruleId m.id = .ok (some m.fields) := by
  have hget : e.messageTable.get? m.id = some (.table m.fields) := by
    apply Table.get?_eq_some_of_mem
    · simpa [Table.keys, PackagedEntry.messageTable, Function.comp_def] using h.ids_nodup
    · exact List.mem_map.mpr ⟨m, hm, rfl⟩
  have hmessages := PackagedEntry.messagesOf_fields .get e
  simp only [message?, hentry]
  change (messagesOf .get e.fields >>= fun messages =>
    (.ok ((messages.get? m.id).bind Data.entries?) : Except Fault _)) = _
  rw [hmessages]
  simp only [bind, Except.bind, hget, Option.bind_some, Data.entries?]

theorem symbols_of_entry (h : e.IsSound) :
    registry.symbols e.ruleId = .ok (e.messages.map fun m => (m.id, m.symbol)) := by
  simp only [symbols, hentry]
  change (messagesOf .items e.fields >>= symbolEntries) = _
  rw [PackagedEntry.messagesOf_fields]
  exact PackagedEntry.symbolEntries_messages h.symbol_given

theorem definitions_of_entry (h : e.IsSound) :
    registry.definitions e.ruleId = .ok (e.messages.map e.definition) := by
  simp only [definitions, hentry]
  change (messagesOf .items e.fields >>= addDefinitions e.ruleId e.fields []) = _
  rw [PackagedEntry.messagesOf_fields]
  exact PackagedEntry.addDefinitions_messages h e.ruleId (List.Subset.refl _) []
    (by simpa [Table.keys] using h.codes_nodup)

end Readers

section Packaged

open PackagedEntry

set_option maxRecDepth 2000 in
theorem packagedDuration_fillable : ∀ m ∈ packagedDuration.messages, m.IsFillable := by
  simp only [packagedDuration, List.mem_cons, List.not_mem_nil, or_false, forall_eq_or_imp,
    forall_eq]
  refine ⟨?_, ?_, ?_⟩
  · exact ⟨_, _, _, (Template.pieces?_append_append _ _ _).trans rfl, rfl, by decide⟩
  · exact ⟨_, _, _, (Template.pieces?_append _ _).trans rfl, rfl, by decide⟩
  · exact ⟨_, _, _, (Template.pieces?_append _ _).trans rfl, rfl, by decide⟩

theorem packagedValidation_fillable : ∀ m ∈ packagedValidation.messages, m.IsFillable := by
  simp only [packagedValidation, List.mem_cons, List.not_mem_nil, or_false, forall_eq_or_imp,
    forall_eq]
  refine ⟨?_, ?_⟩
  · exact ⟨_, _, _, (Template.pieces?_append _ _).trans rfl, rfl, by decide⟩
  · exact ⟨_, _, _, (Template.pieces?_append _ _).trans rfl, rfl, by decide⟩

theorem packagedBudget_fillable : ∀ m ∈ packagedBudget.messages, m.IsFillable := by
  simp only [packagedBudget, List.mem_cons, List.not_mem_nil, or_false, forall_eq_or_imp,
    forall_eq]
  refine ⟨?_, ?_, ?_⟩
  · exact ⟨_, _, _, (Template.pieces?_ofList _).trans rfl, rfl, by decide⟩
  · exact ⟨_, _, _, (Template.pieces?_append _ _).trans rfl, rfl, by decide⟩
  · exact ⟨_, _, _, (Template.pieces?_ofList _).trans rfl, rfl, by decide⟩

set_option maxRecDepth 2000 in
theorem packagedTimeline_fillable : ∀ m ∈ packagedTimeline.messages, m.IsFillable := by
  simp only [packagedTimeline, List.mem_cons, List.not_mem_nil, or_false, forall_eq_or_imp,
    forall_eq]
  refine ⟨?_, ?_, ?_, ?_⟩
  · exact ⟨_, _, _, (Template.pieces?_ofList _).trans rfl, rfl, by decide⟩
  · exact ⟨_, _, _, (Template.pieces?_append _ _).trans rfl, rfl, by decide⟩
  · exact ⟨_, _, _, (Template.pieces?_append _ _).trans rfl, rfl, by decide⟩
  · exact ⟨_, _, _, (Template.pieces?_append _ _).trans rfl, rfl, by decide⟩

/-- An entry without messages has nothing to tell apart. -/
theorem isSound_of_messages_nil {e : PackagedEntry} (h : e.messages = [])
    (hd : e.description.isEmpty = false) : e.IsSound := by
  constructor <;> simp [h, hd]

/-- Every packaged entry is sound. -/
theorem isSound_of_mem {e : PackagedEntry} (he : e ∈ packagedEntries) : e.IsSound := by
  simp only [packagedEntries, List.mem_cons, List.not_mem_nil, or_false] at he
  rcases he with rfl | rfl | rfl | rfl | rfl | rfl | rfl
  · exact ⟨rfl, by decide, packagedDuration_fillable, by decide, by decide, by decide⟩
  · exact ⟨rfl, by decide, packagedValidation_fillable, by decide, by decide, by decide⟩
  · exact ⟨rfl, by decide, packagedBudget_fillable, by decide, by decide, by decide⟩
  · exact ⟨rfl, by decide, packagedTimeline_fillable, by decide, by decide, by decide⟩
  · exact isSound_of_messages_nil rfl rfl
  · exact isSound_of_messages_nil rfl rfl
  · exact isSound_of_messages_nil rfl rfl

/-- Every packaged entry is found under the id of its rule. -/
theorem packaged_entry_eq {e : PackagedEntry} (he : e ∈ packagedEntries) :
    packaged.entry? e.ruleId = .ok (some e.fields) := by
  simp only [packagedEntries, List.mem_cons, List.not_mem_nil, or_false] at he
  rcases he with rfl | rfl | rfl | rfl | rfl | rfl | rfl <;> rfl

/-- Every rule of the catalog is registered with its type and its messages. -/
theorem exists_packagedEntry {rule : Rule} (hr : rule ∈ Rule.catalog) :
    ∃ e ∈ packagedEntries, e.ruleId = rule.id ∧ e.ruleType = rule.type.name ∧
      e.messages.map (·.id) = rule.messageIds := by
  simp only [Rule.catalog, List.mem_cons, List.not_mem_nil, or_false] at hr
  rcases hr with rfl | rfl | rfl | rfl | rfl | rfl | rfl
  · exact ⟨packagedEntries[0], List.getElem_mem _, rfl, rfl, rfl⟩
  · exact ⟨packagedEntries[1], List.getElem_mem _, rfl, rfl, rfl⟩
  · exact ⟨packagedEntries[2], List.getElem_mem _, rfl, rfl, rfl⟩
  · exact ⟨packagedEntries[3], List.getElem_mem _, rfl, rfl, rfl⟩
  · exact ⟨packagedEntries[4], List.getElem_mem _, rfl, rfl, rfl⟩
  · exact ⟨packagedEntries[5], List.getElem_mem _, rfl, rfl, rfl⟩
  · exact ⟨packagedEntries[6], List.getElem_mem _, rfl, rfl, rfl⟩

end Packaged

end MarkerLint.Registry
