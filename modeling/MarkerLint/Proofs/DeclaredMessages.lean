import MarkerLint.Proofs.Literals
import MarkerLint.Proofs.RegistryReaders
import MarkerLint.Proofs.Reporting

/-!
# Messages that a checker declares

A checker declares the definitions of its rule, but hands out the symbols that are listed for the
messages. A message without a template has a symbol and no definition, and of several messages with
one code only the last one is defined. Every message of the catalog is found on some class, so a
checker keeps to what it declares exactly if none of its symbols is lost in this way.
-/

namespace MarkerLint

open Source

namespace Registry

/-- The message is the last one with a template under its code. -/
def IsLast (entry messages : Table Value) (id : String) (fields : Table Value) : Prop :=
  ∃ before after, messages = before ++ (id, .table fields) :: after ∧ IsTemplated fields ∧
    ∀ m ∈ after, ∀ others, m.2 = .table others → IsTemplated others →
      messageCode entry others ≠ messageCode entry fields

/-- The symbol is that of a message of the rule which is the last one with a template under its
code. -/
def Keeps (registry : Registry) (ruleId symbol : String) : Prop :=
  ∃ entry messages id fields, registry.Writes ruleId entry messages ∧
    IsLast entry messages id fields ∧ symbolText id fields = .ok symbol

section Messages

variable {ruleId : String} {entry messages : Table Value} {t definitions : Table MessageDefinition}

/-- The last message that is defined under a code is the last one with a template under it. -/
theorem LastDefines.exists_isLast {code : String} {d : MessageDefinition}
    (h : LastDefines ruleId entry messages code d)
    (hdefinitions : addDefinitions ruleId entry t messages = .ok definitions) :
    ∃ id fields, IsLast entry messages id fields ∧ symbolText id fields = .ok d.symbol := by
  obtain ⟨before, id, message, after, hsplit, hdefined, hlast⟩ := h
  obtain ⟨fields, template, rfl, htemplate, hcode, hsymbol, -⟩ :=
    definition?_eq_some_iff.mp hdefined
  have hfields : IsTemplated fields := isTemplated_iff.mpr ⟨template, htemplate⟩
  refine ⟨id, fields, ⟨before, after, hsplit, hfields, ?_⟩, hsymbol⟩
  -- A later message with a template under the code would be defined under it, after the last one.
  rintro ⟨otherId, _⟩ hm others rfl hothers hsame
  have hmem : (otherId, Data.table others) ∈ messages := by
    rw [hsplit]
    exact List.mem_append_right _ (List.mem_cons_of_mem _ hm)
  obtain ⟨found, hfound⟩ := exists_definition?_of_mem hdefinitions _ hmem
  obtain ⟨otherCode, other, rfl, hotherCode, -⟩ := exists_definition?_of_isTemplated hothers hfound
  obtain rfl : otherCode = code := Except.ok.inj (hotherCode.symm.trans (hsame.trans hcode))
  exact hlast _ hm other hfound

/-- The last message with a template under its code is defined with its symbol. -/
theorem IsLast.exists_get? {id symbol : String} {fields : Table Value}
    (h : IsLast entry messages id fields)
    (hdefinitions : addDefinitions ruleId entry t messages = .ok definitions)
    (hsymbol : symbolText id fields = .ok symbol) :
    ∃ code d, definitions.get? code = some d ∧ d.symbol = symbol := by
  obtain ⟨before, after, rfl, hfields, hlast⟩ := h
  rw [addDefinitions_append] at hdefinitions
  obtain ⟨t', -, hdefinitions⟩ := bind_eq_ok_iff.mp hdefinitions
  obtain ⟨found, hfound, hafter⟩ := bind_eq_ok_iff.mp hdefinitions
  obtain ⟨code, d, rfl, hcode, hsymbol', -⟩ := exists_definition?_of_isTemplated hfields hfound
  refine ⟨code, d, ?_, Except.ok.inj (hsymbol'.symm.trans hsymbol)⟩
  -- What comes after the message either writes under its code again, which it does not, or keeps it.
  rcases get?_addDefinitions hafter code with
    ⟨_, ⟨_, otherId, other, _, rfl, hother, -⟩, -⟩ | ⟨-, hget⟩
  · obtain ⟨others, template, rfl, htemplate, hotherCode, -⟩ := definition?_eq_some_iff.mp hother
    have hothers : IsTemplated others := isTemplated_iff.mpr ⟨template, htemplate⟩
    have hne := hlast (otherId, .table others) (by simp) others rfl hothers
    exact absurd (hotherCode.trans hcode.symm) hne
  · exact hget.trans (Table.get?_insert_self code d t')

end Messages

/-- The definitions of a rule have exactly the symbols that its registry keeps. -/
theorem exists_mem_definitions_iff {registry : Registry} {ruleId symbol : String}
    {definitions : Table MessageDefinition} (h : registry.definitions ruleId = .ok definitions) :
    (∃ e ∈ definitions, e.2.symbol = symbol) ↔ registry.Keeps ruleId symbol := by
  constructor
  · rintro ⟨⟨code, d⟩, hmem, rfl⟩
    by_cases hwrites : ∃ entry messages, registry.Writes ruleId entry messages
    · obtain ⟨entry, messages, hwrites⟩ := hwrites
      rw [hwrites.definitions_eq] at h
      have hget : definitions.get? code = some d :=
        Table.get?_eq_some_of_mem (nodup_keys_addDefinitions h List.nodup_nil) hmem
      rcases get?_addDefinitions h code with ⟨d', hlast, hd'⟩ | ⟨-, hnone⟩
      · obtain rfl := Option.some.inj (hget.symm.trans hd')
        obtain ⟨id, fields, hlast, hsymbol⟩ := hlast.exists_isLast h
        exact ⟨entry, messages, id, fields, hwrites, hlast, hsymbol⟩
      · cases hget.symm.trans hnone
    · obtain ⟨-, -, -, rfl⟩ :=
        of_not_writes (fun entry messages h => hwrites ⟨entry, messages, h⟩) h
      cases hmem
  · rintro ⟨entry, messages, id, fields, hwrites, hlast, hsymbol⟩
    rw [hwrites.definitions_eq] at h
    obtain ⟨code, d, hget, hd⟩ := hlast.exists_get? h hsymbol
    exact ⟨(code, d), Table.mem_of_get?_eq_some hget, hd⟩

end Registry

/-- A class with one marker, whose metadata are given as a table. -/
def markedClass (marker : String) (metadata : Table Datum CodeText) : Declaration where
  name := "C"
  span := nowhere
  decorators := [.call nowhere (.name nowhere marker) [(Data.table metadata).literal nowhere] []]

namespace Rule

/-- The rule finds the message on some class. -/
def Finds (rule : Rule) (id : String) : Prop :=
  ∃ path d, ∃ v ∈ Inspection.violationsOf rule (markersOf path d), v.messageId = id

theorem finds_of_any {rule : Rule} {id : String} (path : String) (d : Declaration)
    (h : ((Inspection.violationsOf rule (markersOf path d)).any (·.messageId == id)) = true) :
    rule.Finds id := by
  obtain ⟨v, hv, hid⟩ := List.any_eq_true.mp h
  exact ⟨path, d, v, hv, beq_iff_eq.mp hid⟩

theorem actionDuration_finds : ∀ id ∈ actionDuration.messageIds, actionDuration.Finds id := by
  refine List.forall_mem_cons.mpr ⟨?automated, List.forall_mem_cons.mpr ⟨?manual,
    List.forall_mem_cons.mpr ⟨?atomic, List.forall_mem_nil _⟩⟩⟩
  case automated =>
    exact finds_of_any "a.py" (markedClass "Action"
      [("automationLevel", .text "fully-automated"), ("estimatedDuration", .text "long")]) rfl
  case manual =>
    exact finds_of_any "a.py" (markedClass "Action"
      [("automationLevel", .text "manual"), ("estimatedDuration", .text "instant")]) rfl
  case atomic =>
    exact finds_of_any "a.py" (markedClass "Action"
      [("scope", .text "Atomic"), ("estimatedDuration", .text "long")]) rfl

theorem behaviorValidation_finds :
    ∀ id ∈ behaviorValidation.messageIds, behaviorValidation.Finds id := by
  refine List.forall_mem_cons.mpr ⟨?missing, List.forall_mem_cons.mpr ⟨?contradicts,
    List.forall_mem_nil _⟩⟩
  case missing =>
    exact finds_of_any "a.py" (markedClass "Behavior"
      [("preconditions", .list [.text "signed in"])]) rfl
  case contradicts =>
    exact finds_of_any "a.py" (markedClass "Behavior"
      [("preconditions", .list [.text "not"]),
       ("validation", .table [("rules", .list [.text "not"])])]) rfl

theorem initiativeBudget_finds :
    ∀ id ∈ initiativeBudget.messageIds, initiativeBudget.Finds id := by
  refine List.forall_mem_cons.mpr ⟨?missing, List.forall_mem_cons.mpr ⟨?mismatch,
    List.forall_mem_cons.mpr ⟨?empty, List.forall_mem_nil _⟩⟩⟩
  case missing =>
    exact finds_of_any "a.py" (markedClass "BusinessInitiative" [("budget", .integer 1)]) rfl
  case mismatch =>
    exact finds_of_any "a.py" (markedClass "BusinessInitiative"
      [("budget", .integer 1), ("budgetBreakdown", .table [("a", .integer 5)])]) rfl
  case empty =>
    exact finds_of_any "a.py" (markedClass "BusinessInitiative"
      [("budgetBreakdown", .table [])]) rfl

theorem initiativeTimeline_finds :
    ∀ id ∈ initiativeTimeline.messageIds, initiativeTimeline.Finds id := by
  refine List.forall_mem_cons.mpr ⟨?missing, List.forall_mem_cons.mpr ⟨?invalid,
    List.forall_mem_cons.mpr ⟨?reversed, List.forall_mem_cons.mpr ⟨?format,
    List.forall_mem_nil _⟩⟩⟩⟩
  case missing => exact finds_of_any "a.py" (markedClass "BusinessInitiative" []) rfl
  case invalid =>
    exact finds_of_any "a.py" (markedClass "BusinessInitiative" [("timeline", .integer 1)]) rfl
  case reversed =>
    exact finds_of_any "a.py" (markedClass "BusinessInitiative"
      [("timeline", .table [("start", .text "2024-01-02"), ("end", .text "2024-01-01")])]) rfl
  case format =>
    exact finds_of_any "a.py" (markedClass "BusinessInitiative"
      [("timeline", .table [("start", .text "January"), ("end", .text "March")])]) rfl

/-- Every message of the catalog is found on some class. -/
theorem finds_of_mem {rule : Rule} (hr : rule ∈ catalog) :
    ∀ id ∈ rule.messageIds, rule.Finds id := by
  simp only [catalog, List.mem_cons, List.not_mem_nil, or_false] at hr
  rcases hr with rfl | rfl | rfl | rfl | rfl | rfl | rfl
  · exact actionDuration_finds
  · exact behaviorValidation_finds
  · exact initiativeBudget_finds
  · exact initiativeTimeline_finds
  all_goals exact List.forall_mem_nil _

end Rule

namespace Checker

/-- The checker declares a definition with the symbol. -/
def Declares (c : Checker) (symbol : String) : Prop :=
  ∃ e ∈ c.definitions, e.2.symbol = symbol

variable {registry : Registry} {rule : Rule} {c : Checker}

theorem eq_of_ofRule (h : ofRule registry rule = .ok c) :
    c.rule = rule ∧ registry.definitions rule.id = .ok c.definitions := by
  obtain ⟨definitions, hdefinitions, h⟩ := bind_eq_ok_iff.mp h
  obtain ⟨symbols, hsymbols, h⟩ := bind_eq_ok_iff.mp h
  cases h
  exact ⟨rfl, hdefinitions⟩

/-- The messages of a visit are those of the violations with a listed symbol. -/
theorem mem_visit_iff {path : String} {d : Declaration} {m : EmittedMessage} :
    m ∈ c.visit path d ↔ ∃ v ∈ Inspection.violationsOf c.rule (markersOf path d),
      ∃ symbol, c.symbols.get? v.messageId = some symbol ∧ m = ⟨symbol, v.data, v.span⟩ := by
  rw [visit, List.mem_filterMap]
  refine exists_congr fun v => and_congr_right fun _ => ?_
  rw [messageFor?, Option.map_eq_some_iff]
  exact exists_congr fun symbol => and_congr_right fun _ => eq_comm

/-- A checker of a catalog rule hands out exactly the symbols that are listed for the messages of
the rule. -/
theorem exists_mem_visit_iff (hrule : c.rule ∈ Rule.catalog) {symbol : String} :
    (∃ path d, ∃ m ∈ c.visit path d, m.symbol = symbol) ↔
      ∃ id ∈ c.rule.messageIds, c.symbols.get? id = some symbol := by
  constructor
  · rintro ⟨path, d, m, hm, rfl⟩
    obtain ⟨v, hv, symbol, hsymbol, rfl⟩ := mem_visit_iff.mp hm
    have hfound := Inspection.foundBy_of_mem_violationsOf hrule hv
    exact ⟨v.messageId, hfound.messageId_mem, hsymbol⟩
  · rintro ⟨id, hid, hsymbol⟩
    obtain ⟨path, d, v, hv, rfl⟩ := Rule.finds_of_mem hrule id hid
    exact ⟨path, d, ⟨symbol, v.data, v.span⟩, mem_visit_iff.mpr ⟨v, hv, symbol, hsymbol, rfl⟩, rfl⟩

/-- A checker of a catalog rule hands out only symbols that it declares exactly if the registry keeps
every symbol that it lists for a message of the rule. -/
theorem declares_emitted_iff (hrule : rule ∈ Rule.catalog) (hc : ofRule registry rule = .ok c) :
    (∀ path d, ∀ m ∈ c.visit path d, c.Declares m.symbol) ↔
      ∀ id ∈ rule.messageIds, ∀ symbol, c.symbols.get? id = some symbol →
        registry.Keeps rule.id symbol := by
  obtain ⟨rfl, hdefinitions⟩ := eq_of_ofRule hc
  have hdeclares (symbol : String) : c.Declares symbol ↔ registry.Keeps c.rule.id symbol :=
    Registry.exists_mem_definitions_iff hdefinitions
  constructor
  · intro hemitted id hid symbol hsymbol
    obtain ⟨path, d, m, hm, rfl⟩ := (exists_mem_visit_iff hrule).mpr ⟨id, hid, hsymbol⟩
    exact (hdeclares m.symbol).mp (hemitted path d m hm)
  · intro hkept path d m hm
    obtain ⟨id, hid, hsymbol⟩ := (exists_mem_visit_iff hrule).mp ⟨path, d, m, hm, rfl⟩
    exact (hdeclares m.symbol).mpr (hkept id hid m.symbol hsymbol)

/-- A registry in which the timeline rule has one message with a template and one that is null. -/
def partialRegistry : Registry :=
  ⟨.table [("aabha.initiative-timeline-validation", .table [("messages", .table
    [("missingTimeline", .table [("message_template", .text "%(name)s has no timeline.")]),
     ("invalidTimeline", .null)])])]⟩

theorem declares_emitted_iff_partialRegistry :
    Rule.initiativeTimeline ∈ Rule.catalog ∧
      ∃ c, ofRule partialRegistry Rule.initiativeTimeline = .ok c ∧
        ∀ path d, ∀ m ∈ c.visit path d, c.Declares m.symbol := by
  have hrule : Rule.initiativeTimeline ∈ Rule.catalog := by simp [Rule.catalog]
  refine ⟨hrule, _, rfl, (@declares_emitted_iff partialRegistry _ _ hrule rfl).mpr ?_⟩
  intro id _ symbol hsymbol
  obtain ⟨-, rfl⟩ := Prod.mk.inj (List.mem_singleton.mp (Table.mem_of_get?_eq_some hsymbol))
  exact ⟨_, _, _, _, ⟨rfl, rfl⟩, ⟨[], _, rfl, ⟨_, rfl, rfl⟩, by simp⟩, rfl⟩

/-- A registry in which a message of the timeline rule has no template. -/
def untemplatedRegistry : Registry :=
  ⟨.table [("aabha.initiative-timeline-validation", .table [("messages", .table
    [("missingTimeline", .table [])])])]⟩

/-- On a class without a timeline the checker hands out a symbol that it does not declare, where
inspection leaves the violation out. -/
theorem undeclared_symbol_emitted :
    ∃ c, ofRule untemplatedRegistry Rule.initiativeTimeline = .ok c ∧
      (∃ m ∈ c.visit "a.py" (markedClass "BusinessInitiative" []), ¬ c.Declares m.symbol) ∧
      Diagnostic.ofViolations untemplatedRegistry
        (Inspection.violationsOf Rule.initiativeTimeline
          (markersOf "a.py" (markedClass "BusinessInitiative" []))) = .ok [] := by
  refine ⟨_, rfl, ⟨_, List.mem_cons_self, ?_⟩, rfl⟩
  rintro ⟨e, he, -⟩
  cases he

end Checker

end MarkerLint
