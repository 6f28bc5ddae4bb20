import MarkerLint.Proofs.Elementwise
import MarkerLint.Proofs.Findings

/-!
# Two ways of reporting

A violation is reported twice: inspection makes a diagnostic of it, and a checker hands its host a
symbol and texts, which the host looks up among the definitions of the checker and fills in. With the
packaged registry no violation of a catalog rule is lost on either way, and both say the same.
-/

namespace MarkerLint

open Source Registry PackagedEntry

/-- A message as the host shows it. A place that is missing reads as zero. -/
structure HostMessage where
  code : String
  symbol : String
  text : CodeText
  line : Int
  column : Int
deriving DecidableEq, Repr

namespace HostMessage

/-- What the host shows for a message of a checker: the definition that the checker declares for the
symbol, filled with the texts; nothing if there is none, or if it cannot be filled. -/
def ofEmitted? (c : Checker) (m : EmittedMessage) : Option HostMessage := do
  let (code, d) ← c.definitions.find? fun e => e.2.symbol == m.symbol
  let text ← Template.fill? d.template (Table.ofList m.arguments)
  some ⟨code, d.symbol, text, m.span.line.getD 0, m.span.column.getD 0⟩

/-- What the host shows for a class, checker by checker: one entry for each message it is handed. -/
def ofClass (checkers : List Checker) (path : String) (d : Declaration) :
    List (Option HostMessage) :=
  checkers.flatMap fun c => (c.visit path d).map (ofEmitted? c)

/-- A diagnostic in the terms of the host. -/
def ofDiagnostic (d : Diagnostic) : HostMessage :=
  ⟨d.code, d.symbol, d.message, d.line, d.column⟩

end HostMessage

/-- The diagnostic says what the violation found: the registered template with the texts of the
violation in the places of its fields, as grave as the rule. -/
structure Diagnostic.Reports (registry : Registry) (rule : Rule) (v : Violation) (d : Diagnostic) :
    Prop where
  built : Diagnostic.ofViolation? registry v = .ok (some d)
  ruleId_eq : d.ruleId = rule.id
  message_filled : ∃ message template pieces parts,
    registry.message? rule.id v.messageId = .ok (some message) ∧
    template? message = some (.text template) ∧
    Template.pieces? template = some pieces ∧
    pieces.mapM (Template.Piece.filled? v.data) = some parts ∧
    d.message = parts.flatten ∧
    Template.fill? template (Table.ofList v.data) = some d.message
  error_iff : d.severity = .error ↔ rule.type = .problem
  warning_iff : d.severity = .warning ↔ rule.type = .suggestion
  place_eq : d.line = v.span.line.getD 0 ∧ d.column = v.span.column.getD 0
  fix_eq : d.fix = none

/-- The code and the symbol of the diagnostic are those of a message of the packaged registry. -/
def Diagnostic.IsPackaged (d : Diagnostic) : Prop :=
  ∃ e ∈ packagedEntries, ∃ m ∈ e.messages, d.code = e.code m ∧ d.symbol = m.symbol

namespace Registry

theorem nodup_of_messageFields {id : String} {fields : List String}
    (h : messageFields.get? id = some fields) : fields.Nodup := by
  have hall : ∀ e ∈ messageFields, e.2.Nodup := by decide
  exact hall _ (Table.mem_of_get?_eq_some h)

/-- The template of a message is filled by the texts of a violation that brings its fields. -/
theorem PackagedMessage.IsFillable.fill {m : PackagedMessage} (h : m.IsFillable)
    {data : List (String × CodeText)} (hdata : messageFields.get? m.id = some (data.map (·.1))) :
    ∃ pieces parts, Template.pieces? m.template = some pieces ∧
      pieces.mapM (Template.Piece.filled? data) = some parts ∧
      Template.fill? m.template (Table.ofList data) = some parts.flatten := by
  obtain ⟨p, pieces, fields, hpieces, hfields, hsub⟩ := h
  obtain rfl : fields = data.map (·.1) := Option.some.inj (hfields.symm.trans hdata)
  obtain ⟨parts, hparts⟩ : ∃ parts, (p :: pieces).mapM (Template.Piece.filled? data) = some parts :=
    Template.mapM_filled?_isSome hsub
  have hself : Table.ofList data = data := Table.ofList_eq_self (nodup_of_messageFields hfields)
  refine ⟨p :: pieces, parts, hpieces, hparts, ?_⟩
  rw [hself, Template.fill?_eq_of_pieces? hpieces, hparts]
  rfl

theorem PackagedEntry.head?_code (e : PackagedEntry) (m : PackagedMessage) :
    (e.code m).toList.head? = some (if e.ruleType = "suggestion" then 'W' else 'E') := by
  simp only [code, categoryLetter, String.toList_append]
  split <;> rfl

end Registry

theorem Severity.ofCode_code (e : PackagedEntry) (m : PackagedMessage) :
    Severity.ofCode (e.code m) = if e.ruleType = "suggestion" then .warning else .error := by
  rw [Severity.ofCode, e.head?_code]
  split <;> simp

section Entry

variable {registry : Registry} {e : PackagedEntry} {rule : Rule} {m : PackagedMessage}
  {v : Violation}

/-- The checker of a rule that is registered by a sound entry declares all messages of the entry. -/
theorem Checker.ofRule_of_entry (hentry : registry.entry? e.ruleId = .ok (some e.fields))
    (h : e.IsSound) (hid : e.ruleId = rule.id) :
    Checker.ofRule registry rule =
      .ok ⟨rule, e.messages.map e.definition, e.messages.map fun m => (m.id, m.symbol)⟩ := by
  rw [Checker.ofRule, ← hid, definitions_of_entry hentry h, symbols_of_entry hentry h]
  rfl

/-- The diagnostic of a violation whose message stands in a sound entry. -/
theorem Diagnostic.ofViolation?_of_entry
    (hentry : registry.entry? e.ruleId = .ok (some e.fields)) (h : e.IsSound)
    (hm : m ∈ e.messages) (hrule : v.ruleId = e.ruleId) (hid : v.messageId = m.id) :
    Diagnostic.ofViolation? registry v =
      .ok (some
        { ruleId := v.ruleId
          code := e.code m
          symbol := m.symbol
          severity := .ofCode (e.code m)
          message := Template.fill m.template (Table.ofList v.data)
          line := v.span.line.getD 0
          column := v.span.column.getD 0
          endLine := v.span.endLine
          endColumn := v.span.endColumn
          fix := v.fix }) := by
  simp only [Diagnostic.ofViolation?, hrule, hid, hentry, message?_of_entry hentry h hm, ok_bind,
    template?_fields (h.fillable m hm), Diagnostic.build, messageCode_fields,
    symbolText_fields (h.symbol_given m hm), Data.display, map_ok]

/-- The symbol of a message leads the host back to the definition of the message. -/
theorem find?_definition (h : e.IsSound) (hm : m ∈ e.messages) :
    (e.messages.map e.definition).find? (fun d => d.2.symbol == m.symbol) =
      some (e.definition m) := by
  have hn := h.symbols_nodup
  generalize e.messages = messages at hm hn
  induction messages with
  | nil => cases hm
  | cons n rest ih =>
      rw [List.map_cons, List.find?_cons]
      rcases List.mem_cons.mp hm with rfl | hrest
      · simp [PackagedEntry.definition]
      · have hne : n.symbol ≠ m.symbol := by
          intro he
          rw [List.map_cons, List.nodup_cons] at hn
          exact hn.1 (List.mem_map.mpr ⟨m, hrest, he.symm⟩)
        have hb : ((e.definition n).2.symbol == m.symbol) = false := by
          simpa [PackagedEntry.definition] using hne
        rw [hb]
        exact ih hrest (List.nodup_cons.mp hn).2

end Entry

/-- A violation of a catalog rule is reported on both ways, in the same words. -/
theorem exists_report {rule : Rule} (hr : rule ∈ Rule.catalog) {c : Checker}
    (hc : Checker.ofRule packaged rule = .ok c) {markers : List Marker} {v : Violation}
    (hv : v.FoundBy rule markers) :
    ∃ d emitted, d.Reports packaged rule v ∧ c.messageFor? v = some emitted ∧
      HostMessage.ofEmitted? c emitted = some (.ofDiagnostic d) ∧ d.IsPackaged := by
  obtain ⟨e, he, hid, htype, hids⟩ := exists_packagedEntry hr
  have hentry := packaged_entry_eq he
  have hsound := isSound_of_mem he
  obtain ⟨m, hm, hmid⟩ : ∃ m ∈ e.messages, m.id = v.messageId :=
    List.mem_map.mp (hids ▸ hv.messageId_mem)
  obtain ⟨pieces, parts, hpieces, hparts, hfill⟩ :=
    (hsound.fillable m hm).fill (hmid ▸ hv.fields_eq)
  have htext : Template.fill m.template (Table.ofList v.data) = parts.flatten := by
    rw [Template.fill, hfill, Option.getD_some]
  have hbuilt := Diagnostic.ofViolation?_of_entry hentry hsound hm (hv.ruleId_eq.trans hid.symm)
    hmid.symm
  have hseverity := Severity.ofCode_code e m
  rw [htype] at hseverity
  have hchecker := (Checker.ofRule_of_entry hentry hsound hid).symm.trans hc
  cases hchecker
  have hget : Table.get? v.messageId (e.messages.map fun m => (m.id, m.symbol)) =
      some m.symbol := by
    apply Table.get?_eq_some_of_mem
    · simpa [Table.keys, Function.comp_def] using hsound.ids_nodup
    · exact List.mem_map.mpr ⟨m, hm, by rw [hmid]⟩
  refine ⟨_, ⟨m.symbol, v.data, v.span⟩, ⟨hbuilt, hv.ruleId_eq, ?_, ?_, ?_, ⟨rfl, rfl⟩, hv.fix_eq⟩,
    ?_, ?_, e, he, m, hm, rfl, rfl⟩
  · refine ⟨m.fields, m.template, pieces, parts, ?_, template?_fields (hsound.fillable m hm),
      hpieces, hparts, htext, ?_⟩
    · rw [← hid, ← hmid]
      exact message?_of_entry hentry hsound hm
    · rw [hfill, htext]
  · rw [hseverity]
    cases rule.type <;> simp [RuleType.name]
  · rw [hseverity]
    cases rule.type <;> simp [RuleType.name]
  · simp only [Checker.messageFor?, hget, Option.map_some]
  · simp only [HostMessage.ofEmitted?, find?_definition hsound hm, PackagedEntry.definition]
    simp [hfill, htext, HostMessage.ofDiagnostic]

/-- Violations that all have a diagnostic keep their number and their order. -/
theorem Diagnostic.ofViolations_forall₂ {registry : Registry} {P : Violation → Diagnostic → Prop}
    {vs : List Violation}
    (h : ∀ v ∈ vs, ∃ d, Diagnostic.ofViolation? registry v = .ok (some d) ∧ P v d) :
    ∃ ds, Diagnostic.ofViolations registry vs = .ok ds ∧ List.Forall₂ P vs ds := by
  induction vs with
  | nil => exact ⟨[], rfl, .nil⟩
  | cons v rest ih =>
      obtain ⟨d, hd, hP⟩ := h v List.mem_cons_self
      obtain ⟨ds, hds, hrest⟩ := ih fun w hw => h w (List.mem_cons_of_mem _ hw)
      refine ⟨d :: ds, ?_, .cons hP hrest⟩
      rw [Diagnostic.ofViolations, hd, hds]
      rfl

theorem Diagnostic.ofViolations_append {registry : Registry} {vs ws : List Violation}
    {ds es : List Diagnostic} (hvs : Diagnostic.ofViolations registry vs = .ok ds)
    (hws : Diagnostic.ofViolations registry ws = .ok es) :
    Diagnostic.ofViolations registry (vs ++ ws) = .ok (ds ++ es) := by
  induction vs generalizing ds with
  | nil =>
      cases hvs
      exact hws
  | cons v rest ih =>
      obtain ⟨d, hd, hvs⟩ := bind_eq_ok_iff.mp hvs
      obtain ⟨others, hothers, hvs⟩ := bind_eq_ok_iff.mp hvs
      cases hvs
      rw [List.cons_append, Diagnostic.ofViolations, hd, ih hothers, ok_bind, ok_bind,
        List.append_assoc]

theorem Inspection.foundBy_of_mem_violationsOf {rule : Rule} (hr : rule ∈ Rule.catalog)
    {markers : List Marker} {v : Violation} (hv : v ∈ Inspection.violationsOf rule markers) :
    v.FoundBy rule markers := by
  cases hc : rule.check markers with
  | error fault => simp [Inspection.violationsOf, hc, Except.toOption] at hv
  | ok vs =>
      simp only [Inspection.violationsOf, hc, Except.toOption, Option.getD_some] at hv
      exact (Rule.findsFitting_of_mem hr).check hc v hv

/-- Every violation that a declaration gives rise to is well formed and becomes a diagnostic in its
place; a declaration without a marker that could be read gets none. -/
theorem violations_reported (path : String) (d : Declaration) :
    (∀ rule ∈ Rule.catalog, ∀ vs, rule.check (markersOf path d) = .ok vs →
      (∀ v ∈ vs, v.FoundBy rule (markersOf path d)) ∧
      ∃ ds, Diagnostic.ofViolations packaged vs = .ok ds ∧
        List.Forall₂ (Diagnostic.Reports packaged rule) vs ds) ∧
    ((∀ m ∈ markersOf path d, m.isParseable = false) → ∀ rules,
      ∃ entry, Inspection.inspectClass packaged rules path d = .ok entry ∧
        ∀ e ∈ entry, e.diagnostics = []) := by
  constructor
  · intro rule hr vs hc
    have hfound := (Rule.findsFitting_of_mem hr).check hc
    refine ⟨hfound, Diagnostic.ofViolations_forall₂ fun v hv => ?_⟩
    obtain ⟨e, he, hid, -, -⟩ := exists_packagedEntry hr
    have hchecker := Checker.ofRule_of_entry (packaged_entry_eq he) (isSound_of_mem he) hid
    obtain ⟨diagnostic, _, hreports, -⟩ := exists_report hr hchecker (hfound v hv)
    exact ⟨diagnostic, hreports.built, hreports⟩
  · intro h rules
    have hnone : Inspection.violations rules (markersOf path d) = [] := by
      apply List.flatMap_eq_nil_iff.mpr
      intro rule _
      rw [Inspection.violationsOf, rule.check_of_not_parseable h]
      rfl
    rw [Inspection.inspectClass]
    cases hm : markersOf path d with
    | nil => exact ⟨none, rfl, by simp⟩
    | cons m ms =>
        rw [hm] at hnone
        refine ⟨some ⟨d.name, d.span.line, m :: ms, []⟩, ?_, by simp⟩
        simp only [hnone, Diagnostic.ofViolations, ok_bind]

section Agreement

/-- Every rule of the catalog has its checker. -/
theorem Checker.ofRules_forall₂ {rules : List Rule} (h : rules ⊆ Rule.catalog) :
    ∃ checkers, Checker.ofRules packaged rules = .ok checkers ∧
      List.Forall₂ (fun rule c => Checker.ofRule packaged rule = .ok c ∧ c.rule = rule)
        rules checkers := by
  induction rules with
  | nil => exact ⟨[], rfl, .nil⟩
  | cons rule rest ih =>
      obtain ⟨e, he, hid, -, -⟩ := exists_packagedEntry (h List.mem_cons_self)
      have hc := Checker.ofRule_of_entry (packaged_entry_eq he) (isSound_of_mem he) hid
      obtain ⟨cs, hcs, hrest⟩ := ih fun r hr => h (List.mem_cons_of_mem _ hr)
      refine ⟨_ :: cs, ?_, .cons ⟨hc, rfl⟩ hrest⟩
      rw [Checker.ofRules, hc, hcs]
      rfl

/-- The messages for violations of one rule are the diagnostics of the violations. -/
theorem shown_eq_diagnostics {rule : Rule} (hr : rule ∈ Rule.catalog) {c : Checker}
    (hc : Checker.ofRule packaged rule = .ok c) {markers : List Marker} {vs : List Violation}
    (hvs : ∀ v ∈ vs, v.FoundBy rule markers) :
    ∃ ds, Diagnostic.ofViolations packaged vs = .ok ds ∧ (∀ d ∈ ds, d.IsPackaged) ∧
      (vs.filterMap c.messageFor?).map (HostMessage.ofEmitted? c) =
        ds.map (some ∘ HostMessage.ofDiagnostic) := by
  induction vs with
  | nil => exact ⟨[], rfl, by simp, rfl⟩
  | cons v rest ih =>
      obtain ⟨d, emitted, hreports, hemitted, hshown, hpackaged⟩ :=
        exists_report hr hc (hvs v List.mem_cons_self)
      obtain ⟨ds, hds, hall, hrest⟩ := ih fun w hw => hvs w (List.mem_cons_of_mem _ hw)
      refine ⟨d :: ds, ?_, List.forall_mem_cons.mpr ⟨hpackaged, hall⟩, ?_⟩
      · rw [Diagnostic.ofViolations, hreports.built, hds]
        rfl
      · rw [List.filterMap_cons_some hemitted, List.map_cons, hshown, hrest]
        rfl

/-- On one class, the checkers show what the diagnostics of all rules say, rule by rule. -/
theorem ofClass_eq_diagnostics {rules : List Rule} {checkers : List Checker}
    (h : List.Forall₂ (fun rule c => Checker.ofRule packaged rule = .ok c ∧ c.rule = rule)
      rules checkers) (hsub : rules ⊆ Rule.catalog) (path : String) (d : Declaration) :
    ∃ ds, Diagnostic.ofViolations packaged (Inspection.violations rules (markersOf path d)) =
        .ok ds ∧ (∀ d ∈ ds, d.IsPackaged) ∧
      HostMessage.ofClass checkers path d = ds.map (some ∘ HostMessage.ofDiagnostic) := by
  induction h with
  | nil => exact ⟨[], rfl, by simp, rfl⟩
  | @cons rule c rest cs hc _ ih =>
      have hr : rule ∈ Rule.catalog := hsub List.mem_cons_self
      have hfound : ∀ v ∈ Inspection.violationsOf rule (markersOf path d),
          v.FoundBy rule (markersOf path d) :=
        fun v hv => Inspection.foundBy_of_mem_violationsOf hr hv
      obtain ⟨ds, hds, hall, hshown⟩ := shown_eq_diagnostics hr hc.1 hfound
      obtain ⟨es, hes, hothers, hrest⟩ := ih fun r hr => hsub (List.mem_cons_of_mem _ hr)
      refine ⟨ds ++ es, Diagnostic.ofViolations_append hds hes,
        List.forall_mem_append.mpr ⟨hall, hothers⟩, ?_⟩
      rw [HostMessage.ofClass] at hrest
      rw [HostMessage.ofClass, List.flatMap_cons, hrest, Checker.visit, hc.2, hshown,
        List.map_append]

/-- What inspection and the checkers say about one class. -/
structure InspectedClass.Agrees (checkers : List Checker) (path : String) (d : Declaration)
    (e : InspectedClass) : Prop where
  declaration_eq : e.declaration = d.name
  line_eq : e.line = d.span.line
  markers_eq : e.markers = markersOf path d
  shown_eq : HostMessage.ofClass checkers path d =
    e.diagnostics.map (some ∘ HostMessage.ofDiagnostic)

theorem Inspection.inspectClasses_forall₂ {checkers : List Checker}
    (h : List.Forall₂ (fun rule c => Checker.ofRule packaged rule = .ok c ∧ c.rule = rule)
      Rule.catalog checkers) (path : String) (ds : List Declaration) :
    ∃ entries, Inspection.inspectClasses packaged Rule.catalog path ds = .ok entries ∧
      List.Forall₂ (InspectedClass.Agrees checkers path)
        (ds.filter fun d => !(markersOf path d).isEmpty) entries := by
  induction ds with
  | nil => exact ⟨[], rfl, .nil⟩
  | cons d rest ih =>
      obtain ⟨entries, hentries, hrest⟩ := ih
      obtain ⟨diagnostics, hdiagnostics, -, hshown⟩ :=
        ofClass_eq_diagnostics h (List.Subset.refl _) path d
      cases hm : markersOf path d with
      | nil =>
          refine ⟨entries, ?_, by simpa [hm] using hrest⟩
          rw [Inspection.inspectClasses, Inspection.inspectClass, hm, hentries]
          rfl
      | cons m ms =>
          rw [hm] at hdiagnostics
          refine ⟨⟨d.name, d.span.line, m :: ms, diagnostics⟩ :: entries, ?_, ?_⟩
          · rw [Inspection.inspectClasses, Inspection.inspectClass, hm, hentries]
            simp only [hdiagnostics, ok_bind]
            rfl
          · rw [List.filter_cons, if_pos (by simp [hm])]
            exact .cons ⟨rfl, rfl, hm.symm, hshown⟩ hrest

/-- The checkers of the catalog show for every class of a module exactly what inspection lists for
it, message by message, and nothing for a class that inspection leaves out. -/
theorem checkers_agree_with_inspection (m : Module) :
    ∃ checkers entries, Checker.ofRules packaged Rule.catalog = .ok checkers ∧
      checkers.map (·.rule) = Rule.catalog ∧
      Inspection.inspect packaged Rule.catalog m = .ok entries ∧
      List.Forall₂ (InspectedClass.Agrees checkers m.path)
        (m.classes.filter fun d => !(markersOf m.path d).isEmpty) entries ∧
      ∀ d ∈ m.classes, markersOf m.path d = [] → ∀ c ∈ checkers, c.visit m.path d = [] := by
  obtain ⟨checkers, hcheckers, hforall⟩ := Checker.ofRules_forall₂ (List.Subset.refl Rule.catalog)
  obtain ⟨entries, hentries, hagree⟩ := Inspection.inspectClasses_forall₂ hforall m.path m.classes
  refine ⟨checkers, entries, hcheckers, ?_, hentries, hagree, ?_⟩
  · have hrules : Rule.catalog.map id = checkers.map (·.rule) :=
      map_eq_map_of_forall₂ hforall fun _ _ hc => hc.2.symm
    rw [← hrules, List.map_id]
  · intro d _ hd c _
    rw [Checker.visit, hd]
    rfl

end Agreement

end MarkerLint
