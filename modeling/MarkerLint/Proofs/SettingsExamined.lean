import Mathlib.Tactic.ByContra
import MarkerLint.Configuration

/-!
# Settings that are examined

The examination of a table of settings warns about its unknown keys first, and then about each entry
of the list of rules to leave out that is no rule. It goes to the end exactly if each entry of that
list can be looked up in a set, and stops at the first one that cannot. An entry that cannot be
written stops nothing: there is a warning about it, which has no text when it is shown.
-/

namespace MarkerLint.Configuration

/-- The warnings about the values that are none of the texts, one for each of them in order. -/
def warningsAbout (texts : List String) (remark : String → String) (values : List Value) :
    List LogEntry :=
  (values.filter fun v => !isOneOf texts v).map fun v => warning (remark <$> v.display)

section Lists

variable {texts : List String} {remark : String → String}

/-- A value that can be looked up is passed over if it is one of the texts, and is warned about
otherwise. -/
theorem warnUnless_cons {v : Value} (hv : v.isHashable = true) (rest : List Value) :
    warnUnless texts remark (v :: rest) =
      .andThen ⟨warningsAbout texts remark [v], none⟩ (warnUnless texts remark rest) := by
  rw [warnUnless, hv]
  cases hone : isOneOf texts v with
  | true =>
      rw [warningsAbout, List.filter_cons_of_neg (by simp [hone])]
      rfl
  | false =>
      rw [warningsAbout, List.filter_cons_of_pos (by simp [hone])]
      rfl

/-- A value that cannot be looked up ends the examination without a remark. -/
theorem warnUnless_cons_of_not_isHashable {v : Value} (rest : List Value)
    (h : ¬ v.isHashable = true) :
    warnUnless texts remark (v :: rest) = .failed (.unhashable v.kind) := by
  rw [warnUnless, Bool.eq_false_iff.mpr h]
  rfl

/-- Values that can be looked up are followed by whatever comes after them, with a warning for each
of them that is none of the texts. -/
theorem warnUnless_append {values : List Value} (h : ∀ v ∈ values, v.isHashable = true)
    (rest : List Value) :
    warnUnless texts remark (values ++ rest) =
      .andThen ⟨warningsAbout texts remark values, none⟩ (warnUnless texts remark rest) := by
  induction values with
  | nil => rfl
  | cons v values ih =>
      obtain ⟨hv, hvalues⟩ := List.forall_mem_cons.mp h
      have hsplit : warningsAbout texts remark (v :: values) =
          warningsAbout texts remark [v] ++ warningsAbout texts remark values := by
        simp only [warningsAbout, ← List.map_append, ← List.filter_append, List.singleton_append]
      rw [List.cons_append, warnUnless_cons hv, ih hvalues, hsplit]
      simp only [Examination.andThen, List.append_assoc]

/-- The examination of values that can be looked up goes to the end. -/
theorem warnUnless_eq {values : List Value} (h : ∀ v ∈ values, v.isHashable = true) :
    warnUnless texts remark values = ⟨warningsAbout texts remark values, none⟩ := by
  have hend : warnUnless texts remark (values ++ []) = _ := warnUnless_append h []
  rw [List.append_nil] at hend
  rw [hend, warnUnless, Examination.andThen, Examination.silent, List.append_nil]

/-- Values that cannot all be looked up have a first one that cannot. -/
theorem exists_first_not_isHashable {values : List Value}
    (h : ¬ ∀ v ∈ values, v.isHashable = true) :
    ∃ before v after, values = before ++ v :: after ∧ (∀ w ∈ before, w.isHashable = true) ∧
      ¬ v.isHashable = true := by
  induction values with
  | nil => exact absurd (List.forall_mem_nil _) h
  | cons v values ih =>
      by_cases hv : v.isHashable = true
      · obtain ⟨before, w, after, rfl, hbefore, hw⟩ :=
          ih fun hvalues => h (List.forall_mem_cons.mpr ⟨hv, hvalues⟩)
        exact ⟨v :: before, w, after, rfl, List.forall_mem_cons.mpr ⟨hv, hbefore⟩, hw⟩
      · exact ⟨[], v, values, rfl, List.forall_mem_nil _, hv⟩

end Lists

section Tables

/-- The remark on a key that is no setting. -/
def keyRemark (key : String) : String :=
  s!"unknown [tool.aabha-lint] key '{key}'."

/-- The remark on a value that is no rule. -/
def ruleRemark (id : String) : String :=
  s!"unknown rule id '{id}' in 'disable'."

/-- The warnings about the keys of a table that are no settings, one for each of them in order. -/
def keyWarnings (entries : Table Value) : List LogEntry :=
  (entries.keys.filter fun k => !knownKeys.contains k).map fun k => warning (.ok (keyRemark k))

/-- The values that a table lists as rules to leave out. -/
def listedRules (entries : Table Value) : List Value :=
  ((Table.get? "disable" entries).bind Data.items?).getD []

/-- What there is to say about the rules to leave out, as they are given: nothing if they are not, and
otherwise that they are no list, or which of them are no rules. -/
inductive SaysOfRules : Option Value → List LogEntry → Prop
  | absent : SaysOfRules none []
  | unlisted {v : Value} : v.items? = none →
      SaysOfRules (some v) [warning (.ok "'disable' must be a list of rule ids.")]
  | listed (items : List Value) :
      SaysOfRules (some (.list items)) (warningsAbout Rule.ids ruleRemark items)

/-- The table has been examined to its end: it is accepted, and the warnings are those about its keys
and then those about the rules to leave out. -/
structure IsExamined (entries : Table Value) (tool : Value)
    (loaded : Logged (Except Fault Configuration)) : Prop where
  accepted : loaded.value = .ok ⟨.table entries, tool⟩
  log : ∃ more, SaysOfRules (Table.get? "disable" entries) more ∧
    loaded.log = keyWarnings entries ++ more

/-- The examination has stopped at a listed value that cannot be looked up, after the warnings about
the keys and about the values before it. -/
structure StopsAt (before : List Value) (v : Value) (entries : Table Value)
    (loaded : Logged (Except Fault Configuration)) : Prop where
  refused : loaded.value = .error (.unhashable v.kind)
  log : loaded.log = keyWarnings entries ++ warningsAbout Rule.ids ruleRemark before

variable (entries : Table Value) (tool : Value)

/-- Keys are texts, so each of them is examined. -/
theorem examineKeys_table : examineKeys (.table entries) = ⟨keyWarnings entries, none⟩ := by
  have hkeys : (entries.map fun e => (.text e.1 : Value)) = entries.keys.map .text :=
    (List.map_map (l := entries)).symm
  have hhashable : ∀ v ∈ entries.keys.map (Data.text : String → Value), v.isHashable = true :=
    List.forall_mem_map.mpr fun _ _ => rfl
  rw [examineKeys, keysOf]
  dsimp only
  rw [hkeys, warnUnless_eq hhashable, warningsAbout, List.filter_map, List.map_map]
  rfl

/-- A table is examined by its keys and then by its rules to leave out, also if it is empty. -/
theorem examine_table :
    examine (.table entries) =
      ⟨keyWarnings entries ++ (examineDisabled (.table entries)).log,
        (examineDisabled (.table entries)).fault⟩ := by
  rw [examine]
  cases entries with
  | nil => rfl
  | cons e es =>
      have hgiven : (Data.table (e :: es)).isGiven = true := rfl
      rw [if_pos hgiven, examineKeys_table]
      rfl

theorem load_of_accepted {more : List LogEntry}
    (h : examineDisabled (.table entries) = ⟨more, none⟩) :
    load (.table entries) tool =
      ⟨.ok ⟨.table entries, tool⟩, keyWarnings entries ++ more⟩ := by
  simp only [load, examine_table, h]

theorem load_of_refused {more : List LogEntry} {f : Fault}
    (h : examineDisabled (.table entries) = ⟨more, some f⟩) :
    load (.table entries) tool = ⟨.error f, keyWarnings entries ++ more⟩ := by
  simp only [load, examine_table, h]

theorem examineDisabled_table :
    examineDisabled (.table entries) =
      match Table.get? "disable" entries with
      | none => .silent
      | some (.list items) => warnUnless Rule.ids ruleRemark items
      | some _ => ⟨[warning (.ok "'disable' must be a list of rule ids.")], none⟩ := by
  rw [examineDisabled, Data.get?, Data.asTable, map_ok]
  rcases Table.get? "disable" entries with _ | v
  · rfl
  · cases v <;> rfl

/-- The rules to leave out are the listed values that are rules, in order. -/
theorem exists_disabledRules_eq :
    ∃ ids, (⟨.table entries, tool⟩ : Configuration).disabledRules = .ok ids ∧
      ids.map .text = (listedRules entries).filter (isOneOf Rule.ids) := by
  refine ⟨((listedRules entries).filterMap Data.text?).filter Rule.ids.contains, rfl, ?_⟩
  induction listedRules entries with
  | nil => rfl
  | cons v rest ih =>
      cases v with
      | text s =>
          have hone : isOneOf Rule.ids (.text s) = Rule.ids.contains s := rfl
          have htext : (.text s : Value).text? = some s := rfl
          rw [List.filterMap_cons_some htext, List.filter_cons, List.filter_cons, hone]
          split
          · rw [List.map_cons, ih]
          · exact ih
      | _ => exact ih

/-- The rules to leave out are examined to the end if each listed value can be looked up. -/
theorem exists_examineDisabled_eq (h : ∀ v ∈ listedRules entries, v.isHashable = true) :
    ∃ more, SaysOfRules (Table.get? "disable" entries) more ∧
      examineDisabled (.table entries) = ⟨more, none⟩ := by
  rw [examineDisabled_table]
  rw [listedRules] at h
  generalize Table.get? "disable" entries = setting at h ⊢
  rcases setting with _ | v
  · exact ⟨[], .absent, rfl⟩
  · cases v with
    | list items => exact ⟨_, .listed items, warnUnless_eq h⟩
    | _ => exact ⟨_, .unlisted rfl, rfl⟩

/-- They stop at the first listed value that cannot. -/
theorem examineDisabled_refused {before after : List Value} {v : Value}
    (h : listedRules entries = before ++ v :: after) (hbefore : ∀ w ∈ before, w.isHashable = true)
    (hv : ¬ v.isHashable = true) :
    examineDisabled (.table entries) =
      ⟨warningsAbout Rule.ids ruleRemark before, some (.unhashable v.kind)⟩ := by
  rw [examineDisabled_table]
  rw [listedRules] at h
  generalize Table.get? "disable" entries = setting at h ⊢
  rcases setting with _ | w
  · exact absurd h (by simp)
  · cases w with
    | list items =>
        obtain rfl : items = before ++ v :: after := h
        dsimp only
        rw [warnUnless_append hbefore, warnUnless_cons_of_not_isHashable after hv]
        simp [Examination.andThen, Examination.failed]
    | _ => exact absurd h (by simp [Data.items?])

/-- Loading stops at the first listed value that cannot be looked up, if there is one. -/
theorem exists_stopsAt (h : ¬ ∀ v ∈ listedRules entries, v.isHashable = true) :
    ∃ before v after, listedRules entries = before ++ v :: after ∧
      (∀ w ∈ before, w.isHashable = true) ∧ ¬ v.isHashable = true ∧
      StopsAt before v entries (load (.table entries) tool) := by
  obtain ⟨before, v, after, hsplit, hbefore, hv⟩ := exists_first_not_isHashable h
  have hrefused := examineDisabled_refused entries hsplit hbefore hv
  rw [load_of_refused entries tool hrefused]
  exact ⟨before, v, after, hsplit, hbefore, hv, rfl, rfl⟩

end Tables

/-- A table of settings is examined to its end exactly if each value that it lists as a rule to leave
out can be looked up in a set. Otherwise the first one that cannot stops the examination, and the
table is not accepted. Either way, the rules to leave out are the listed values that are rules. -/
theorem settings_examined_iff (entries : Table Value) (tool : Value) :
    (IsExamined entries tool (load (.table entries) tool) ↔
      ∀ v ∈ listedRules entries, v.isHashable = true) ∧
    ((¬ ∀ v ∈ listedRules entries, v.isHashable = true) →
      ∃ before v after, listedRules entries = before ++ v :: after ∧
        (∀ w ∈ before, w.isHashable = true) ∧ ¬ v.isHashable = true ∧
        StopsAt before v entries (load (.table entries) tool)) ∧
    ∃ ids, (⟨.table entries, tool⟩ : Configuration).disabledRules = .ok ids ∧
      ids.map .text = (listedRules entries).filter (isOneOf Rule.ids) := by
  refine ⟨⟨?_, ?_⟩, exists_stopsAt entries tool, exists_disabledRules_eq entries tool⟩
  · intro hexamined
    by_contra h
    obtain ⟨before, v, after, -, -, -, hstop⟩ := exists_stopsAt entries tool h
    cases hexamined.accepted.symm.trans hstop.refused
  · intro h
    obtain ⟨more, hmore, hexamined⟩ := exists_examineDisabled_eq entries h
    rw [load_of_accepted entries tool hexamined]
    exact ⟨rfl, more, hmore, rfl⟩

/-- A list among the rules to leave out is refused, though reading these rules passes it over. -/
theorem nested_list_refused :
    (load (.table [("disable", .list [.list [.text "x"]])]) (.table [])).value =
        .error (.unhashable .list) ∧
      (⟨.table [("disable", .list [.list [.text "x"]])], .table []⟩ : Configuration).disabledRules =
        .ok [] :=
  ⟨rfl, rfl⟩

end MarkerLint.Configuration
