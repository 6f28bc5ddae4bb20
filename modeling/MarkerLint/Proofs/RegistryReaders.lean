import MarkerLint.Diagnostic

/-!
# The readers of a registry

Four readers walk the same document, which may hold anything: one lists the definitions of a rule
under their codes, one the symbols of its messages, one looks a single message up, and one makes a
diagnostic of a violation. What each of them makes of the messages of an entry is stated here once;
that they agree, whatever the document holds, follows from it.
-/

namespace MarkerLint.Registry

/-- The registry writes these messages in this entry for a rule. -/
structure Writes (r : Registry) (ruleId : String) (entry messages : Table Value) : Prop where
  entry_eq : r.document.get? (keyOf ruleId) = .ok (some (.table entry))
  messages_eq : entry.get? "messages" = some (.table messages)

/-- The message has a template that is given. -/
def IsTemplated (message : Table Value) : Prop :=
  ∃ template, message.get? "message_template" = some template ∧ template.isGiven = true

theorem given?_eq_some_iff {v : Option Value} {w : Value} :
    Data.given? v = some w ↔ v = some w ∧ w.isGiven = true :=
  Option.filter_eq_some_iff

theorem isTemplated_iff {message : Table Value} :
    IsTemplated message ↔ ∃ template, template? message = some template := by
  simp only [IsTemplated, template?, given?_eq_some_iff]

section Messages

variable {ruleId : String} {entry messages : Table Value} {t definitions : Table MessageDefinition}

theorem definition?_of_template?_eq_none {id : String} {fields : Table Value}
    (h : template? fields = none) : definition? ruleId entry id (.table fields) = .ok none := by
  simp only [definition?, Data.entries?, h]

theorem definition?_of_template?_eq_some {id : String} {fields : Table Value} {template : Value}
    (h : template? fields = some template) :
    definition? ruleId entry id (.table fields) = (do
      let code ← messageCode entry fields
      let symbol ← symbolText id fields
      let text ← template.display
      let description ← (describe ruleId entry).display
      .ok (some (code, ⟨text, symbol, description⟩))) := by
  simp only [definition?, Data.entries?, h]

/-- A message is defined under a code if it has a template and all its texts can be written. -/
theorem definition?_eq_some_iff {id code : String} {message : Value} {d : MessageDefinition} :
    definition? ruleId entry id message = .ok (some (code, d)) ↔
      ∃ fields template, message = .table fields ∧ template? fields = some template ∧
        messageCode entry fields = .ok code ∧ symbolText id fields = .ok d.symbol ∧
        template.display = .ok d.template ∧
        (describe ruleId entry).display = .ok d.description := by
  constructor
  · intro h
    cases message with
    | table fields =>
        cases htemplate : template? fields with
        | none =>
            rw [definition?_of_template?_eq_none htemplate] at h
            cases h
        | some template =>
            rw [definition?_of_template?_eq_some htemplate] at h
            obtain ⟨code, hcode, h⟩ := bind_eq_ok_iff.mp h
            obtain ⟨symbol, hsymbol, h⟩ := bind_eq_ok_iff.mp h
            obtain ⟨text, htext, h⟩ := bind_eq_ok_iff.mp h
            obtain ⟨description, hdescription, h⟩ := bind_eq_ok_iff.mp h
            cases h
            exact ⟨fields, template, rfl, htemplate, hcode, hsymbol, htext, hdescription⟩
    | _ => cases h
  · rintro ⟨fields, template, rfl, htemplate, hcode, hsymbol, htext, hdescription⟩
    rw [definition?_of_template?_eq_some htemplate, hcode, hsymbol, htext, hdescription]
    rfl

/-- A message with a template that has an answer has a definition, with the code, the symbol and the
template of the message. -/
theorem exists_definition?_of_isTemplated {id : String} {fields : Table Value}
    {found : Option (String × MessageDefinition)} (hfields : IsTemplated fields)
    (h : definition? ruleId entry id (.table fields) = .ok found) :
    ∃ code d, found = some (code, d) ∧ messageCode entry fields = .ok code ∧
      symbolText id fields = .ok d.symbol ∧
      ∃ template, template? fields = some template ∧ template.display = .ok d.template := by
  obtain ⟨template, htemplate⟩ := isTemplated_iff.mp hfields
  rw [definition?_of_template?_eq_some htemplate] at h
  obtain ⟨code, hcode, h⟩ := bind_eq_ok_iff.mp h
  obtain ⟨symbol, hsymbol, h⟩ := bind_eq_ok_iff.mp h
  obtain ⟨text, htext, h⟩ := bind_eq_ok_iff.mp h
  obtain ⟨description, -, h⟩ := bind_eq_ok_iff.mp h
  cases h
  exact ⟨code, ⟨text, symbol, description⟩, rfl, hcode, hsymbol, template, htemplate, htext⟩

/-- Definitions are listed only if every message has an answer. -/
theorem exists_definition?_of_mem (h : addDefinitions ruleId entry t messages = .ok definitions) :
    ∀ m ∈ messages, ∃ found, definition? ruleId entry m.1 m.2 = .ok found := by
  induction messages generalizing t with
  | nil => exact fun m hm => by cases hm
  | cons m rest ih =>
      obtain ⟨found, hfound, h⟩ := bind_eq_ok_iff.mp h
      refine List.forall_mem_cons.mpr ⟨⟨found, hfound⟩, ?_⟩
      cases found with
      | none => exact ih h
      | some d => exact ih h

/-- The message is the last one that is defined under the code. -/
def LastDefines (ruleId : String) (entry messages : Table Value) (code : String)
    (d : MessageDefinition) : Prop :=
  ∃ before id message after, messages = before ++ (id, message) :: after ∧
    definition? ruleId entry id message = .ok (some (code, d)) ∧
    ∀ m ∈ after, ∀ d', definition? ruleId entry m.1 m.2 ≠ .ok (some (code, d'))

/-- A code keeps the definition that was written last; one that no message is defined under keeps
what it had. -/
theorem get?_addDefinitions (h : addDefinitions ruleId entry t messages = .ok definitions)
    (code : String) :
    (∃ d, LastDefines ruleId entry messages code d ∧ definitions.get? code = some d) ∨
      (∀ m ∈ messages, ∀ d', definition? ruleId entry m.1 m.2 ≠ .ok (some (code, d'))) ∧
        definitions.get? code = t.get? code := by
  induction messages generalizing t with
  | nil =>
      cases h
      exact .inr ⟨fun m hm => (by cases hm), rfl⟩
  | cons m rest ih =>
      obtain ⟨id, message⟩ := m
      obtain ⟨found, hfound, h⟩ := bind_eq_ok_iff.mp h
      have hstep : ∃ t', addDefinitions ruleId entry t' rest = .ok definitions ∧
          ((∃ d, found = some (code, d) ∧ t'.get? code = some d) ∨
            (∀ d, found ≠ some (code, d)) ∧ t'.get? code = t.get? code) := by
        cases found with
        | none => exact ⟨t, h, .inr ⟨fun d hd => (by cases hd), rfl⟩⟩
        | some e =>
            obtain ⟨c, d⟩ := e
            refine ⟨t.insert c d, h, ?_⟩
            by_cases hc : code = c
            · subst hc
              exact .inl ⟨d, rfl, Table.get?_insert_self code d t⟩
            · refine .inr ⟨fun d' hd' => hc ?_, Table.get?_insert_of_ne hc d t⟩
              exact (Prod.mk.inj (Option.some.inj hd')).1.symm
      obtain ⟨t', hrest, hhere⟩ := hstep
      rcases ih hrest with
        ⟨d, ⟨before, id', message', after, hsplit, hdefined, hlast⟩, hget⟩ | ⟨hnone, hget⟩
      · refine .inl ⟨d, ⟨(id, message) :: before, id', message', after, ?_, hdefined, hlast⟩, hget⟩
        rw [hsplit, List.cons_append]
      · rcases hhere with ⟨d, rfl, ht'⟩ | ⟨hne, ht'⟩
        · exact .inl ⟨d, ⟨[], id, message, rest, rfl, hfound, hnone⟩, hget.trans ht'⟩
        · refine .inr ⟨List.forall_mem_cons.mpr ⟨fun d hd => ?_, hnone⟩, hget.trans ht'⟩
          exact hne d (Except.ok.inj (hfound.symm.trans hd))

theorem addDefinitions_append (xs ys : List (String × Value)) :
    addDefinitions ruleId entry t (xs ++ ys) =
      (addDefinitions ruleId entry t xs >>= fun t => addDefinitions ruleId entry t ys) := by
  induction xs generalizing t with
  | nil => rfl
  | cons m rest ih =>
      simp only [List.cons_append, addDefinitions]
      cases definition? ruleId entry m.1 m.2 with
      | error _ => rfl
      | ok found =>
          cases found with
          | none => exact ih
          | some _ => exact ih

/-- Definitions are written under distinct codes. -/
theorem nodup_keys_addDefinitions (h : addDefinitions ruleId entry t messages = .ok definitions)
    (ht : t.keys.Nodup) : definitions.keys.Nodup := by
  induction messages generalizing t with
  | nil =>
      cases h
      exact ht
  | cons m rest ih =>
      obtain ⟨found, -, h⟩ := bind_eq_ok_iff.mp h
      cases found with
      | none => exact ih h ht
      | some d => exact ih h (Table.nodup_keys_insert ht d.1 d.2)

end Messages

section Rules

variable {registry : Registry} {ruleId : String} {entry messages : Table Value}

theorem messagesOf_eq (h : entry.get? "messages" = some (.table messages)) (use : TableUse) :
    messagesOf use entry = .ok messages := by
  rw [messagesOf, h]
  cases messages <;> rfl

theorem messagesOf_eq_ok_of_eq_ok {use : TableUse} (h : messagesOf use entry = .ok messages)
    (use' : TableUse) : messagesOf use' entry = .ok messages := by
  rw [messagesOf] at h ⊢
  cases hgiven : Data.given? (entry.get? "messages") with
  | none => rwa [hgiven] at h
  | some v =>
      rw [hgiven] at h
      cases v with
      | table _ => exact h
      | _ => cases h

/-- The definitions of a rule are those of the messages of its entry. -/
theorem definitions_eq_bind (hentry : registry.entry? ruleId = .ok (some entry)) :
    registry.definitions ruleId =
      messagesOf .items entry >>= addDefinitions ruleId entry [] := by
  rw [definitions, hentry, ok_bind]
  cases entry with
  | nil => rfl
  | cons e rest => rfl

namespace Writes

variable (h : registry.Writes ruleId entry messages)

include h

theorem entry?_eq : registry.entry? ruleId = .ok (some entry) := by
  unfold entry?
  rw [h.entry_eq]
  rfl

theorem definitions_eq :
    registry.definitions ruleId = addDefinitions ruleId entry [] messages := by
  rw [definitions_eq_bind h.entry?_eq, messagesOf_eq h.messages_eq, ok_bind]

/-- A rule has one entry and one table of messages. -/
theorem eq_and_eq {entry' messages' : Table Value} (h' : registry.Writes ruleId entry' messages') :
    entry' = entry ∧ messages' = messages := by
  have hentry := h'.entry_eq.symm.trans h.entry_eq
  obtain rfl := Data.table.inj (Option.some.inj (Except.ok.inj hentry))
  have hmessages := h'.messages_eq.symm.trans h.messages_eq
  exact ⟨rfl, Data.table.inj (Option.some.inj hmessages)⟩

end Writes

/-- The entry of a rule without messages has none, however it is read. -/
theorem messagesOf_of_not_writes (hnone : ∀ entry messages, ¬ registry.Writes ruleId entry messages)
    {fields found : Table Value} {use' : TableUse}
    (hentry : registry.entry? ruleId = .ok (some fields))
    (hfound : messagesOf use' fields = .ok found) (use : TableUse) :
    messagesOf use fields = .ok [] := by
  cases hgiven : Data.given? (fields.get? "messages") with
  | none => rw [messagesOf, hgiven]
  | some v =>
      rw [messagesOf, hgiven] at hfound
      obtain ⟨hget, -⟩ := given?_eq_some_iff.mp hgiven
      obtain ⟨w, hw, hentries⟩ := map_eq_ok_iff.mp hentry
      obtain ⟨u, rfl, hu⟩ := Option.bind_eq_some_iff.mp hentries
      -- The entry and the given messages are tables, so the registry writes them.
      cases u with
      | table entry =>
          cases hu
          cases v with
          | table messages => exact absurd ⟨hw, hget⟩ (hnone _ _)
          | _ => cases hfound
      | _ => cases hu

/-- A rule without messages is read as one by every reader that has an answer. -/
theorem of_not_writes (hnone : ∀ entry messages, ¬ registry.Writes ruleId entry messages)
    {defs : Table MessageDefinition} (h : registry.definitions ruleId = .ok defs) :
    (∃ entry, registry.entry? ruleId = .ok entry) ∧
      (∀ id, registry.message? ruleId id = .ok none) ∧
      registry.symbols ruleId = .ok [] ∧ defs = [] := by
  obtain ⟨found, hfound, h⟩ := bind_eq_ok_iff.mp h
  refine ⟨⟨found, hfound⟩, ?_⟩
  simp only [message?, symbols, hfound, ok_bind]
  rcases found with _ | _ | ⟨e, rest⟩
  · cases h
    exact ⟨fun _ => rfl, rfl, rfl⟩
  · cases h
    exact ⟨fun _ => rfl, rfl, rfl⟩
  · obtain ⟨messages, hmessages, -⟩ := bind_eq_ok_iff.mp h
    simp only [messagesOf_of_not_writes hnone hfound hmessages, ok_bind] at h ⊢
    cases h
    exact ⟨fun _ => rfl, rfl, rfl⟩

section Diagnostics

variable {v : Violation} {fields : Table Value}

variable {definitions : Table MessageDefinition} {symbols : Table String}

end Diagnostics

end Rules

end MarkerLint.Registry
