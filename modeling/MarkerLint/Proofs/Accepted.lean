import MarkerLint.Configuration.File

/-!
# Configurations that are accepted

A configuration is accepted if the examination of its document goes to the end. Its settings can then
be read, whatever else the document holds. The configuration of a project is accepted wherever the
program has one.
-/

namespace MarkerLint.Configuration

/-- The configuration was loaded from a document that is a table. -/
def IsAccepted (c : Configuration) : Prop :=
  ∃ entries tool, (load (.table entries) tool).value = .ok c

/-- The settings list the rule among those to leave out. -/
def Disables (c : Configuration) (id : String) : Prop :=
  ∃ items, c.document.get? "disable" = .ok (some (.list items)) ∧ .text id ∈ items

/-- What is loaded is what was given. -/
theorem eq_of_load {document tool : Value} {c : Configuration}
    (h : (load document tool).value = .ok c) : c = ⟨document, tool⟩ := by
  rw [load] at h
  split at h
  · cases h
  · exact (Except.ok.inj h).symm

/-- A document that says something and is no table is not accepted: its settings cannot be looked
up. -/
theorem exists_table_of_load {document tool : Value} {c : Configuration}
    (hgiven : document.isGiven = true) (h : (load document tool).value = .ok c) :
    ∃ entries, document = .table entries := by
  have hfault : (examine document).fault = none := by
    rw [load] at h
    split at h
    · cases h
    · assumption
  rw [examine, if_pos hgiven, Examination.andThen] at hfault
  split at hfault
  · next hkeys =>
      rw [hkeys] at hfault
      cases hfault
  · cases document with
    | table entries => exact ⟨entries, rfl⟩
    | _ => cases hfault

theorem IsAccepted.exists_table {c : Configuration} (h : c.IsAccepted) :
    ∃ entries, c.document = .table entries := by
  obtain ⟨entries, tool, hload⟩ := h
  exact ⟨entries, by rw [eq_of_load hload]⟩

/-- The section of a document says something or is an empty table. -/
theorem isGiven_or_empty (v : Option Value) :
    (givenOrEmpty v).isGiven = true ∨ givenOrEmpty v = .table [] := by
  rw [givenOrEmpty]
  cases hv : Data.given? v with
  | none => exact .inr rfl
  | some w => exact .inl (Option.filter_eq_some_iff.mp hv).2

theorem isGiven_or_empty_of_readFile {path : String} {n : FileNode} {s : Sections}
    (h : (readFile path n).value = .ok s) : s.settings.isGiven = true ∨ s.settings = .table [] := by
  have hempty {r : Sections} (hr : (Except.ok .empty : Except Fault Sections) = .ok r) :
      r.settings = .table [] := by
    obtain rfl := Except.ok.inj hr
    rfl
  rw [readFile.eq_def] at h
  split at h
  · exact .inr (hempty h)
  · split at h
    · cases h
    · split at h
      · obtain ⟨settings, -, hs⟩ := bind_eq_ok_iff.mp h
        obtain rfl := Except.ok.inj hs
        exact isGiven_or_empty settings
      · exact .inr (hempty h)
      · cases h

/-- The configuration of a project is an accepted one. -/
theorem isAccepted_of_ofProject {t : FileTree} {start : List String} {c : Configuration}
    (h : (ofProject t start).value = .ok c) : c.IsAccepted := by
  rw [ofProject] at h
  split at h
  · cases h
  · next s hs =>
      have hsettings : s.settings.isGiven = true ∨ s.settings = .table [] := by
        rw [readNearest] at hs
        split at hs
        · obtain rfl := Except.ok.inj hs
          exact .inr rfl
        · exact isGiven_or_empty_of_readFile hs
      have hload : (load s.settings s.tool).value = .ok c := h
      rcases hsettings with hgiven | hempty
      · obtain ⟨entries, htable⟩ := exists_table_of_load hgiven hload
        exact ⟨entries, s.tool, htable ▸ hload⟩
      · exact ⟨[], s.tool, hempty ▸ hload⟩

/-- The items of a setting can be read; they are those of the list under the key, if there is one. -/
theorem IsAccepted.exists_items {c : Configuration} (h : c.IsAccepted) (key : String) :
    ∃ items, c.itemsOf key = .ok items ∧ ∀ v, v ∈ items ↔
      ∃ listed, c.document.get? key = .ok (some (.list listed)) ∧ v ∈ listed := by
  obtain ⟨entries, htable⟩ := h.exists_table
  have hget : c.document.get? key = .ok (Table.get? key entries) := by rw [htable]; rfl
  refine ⟨(((Table.get? key entries).bind Data.items?).getD []), by rw [itemsOf, hget]; rfl, ?_⟩
  intro v
  rw [hget]
  cases Table.get? key entries with
  | none => simp
  | some w => cases w <;> simp [Data.items?]

/-- The rules to leave out can be read; they are those of the catalog that the settings list. -/
theorem IsAccepted.exists_disabledRules {c : Configuration} (h : c.IsAccepted) :
    ∃ configured, c.disabledRules = .ok configured ∧
      ∀ id, id ∈ configured ↔ c.Disables id ∧ id ∈ Rule.ids := by
  obtain ⟨items, hitems, hmem⟩ := h.exists_items "disable"
  refine ⟨_, by rw [disabledRules, hitems]; rfl, fun id => ?_⟩
  rw [List.mem_filter, List.mem_filterMap, List.contains_iff_mem, Disables, ← hmem]
  refine and_congr_left fun _ => ⟨?_, fun hid => ⟨_, hid, rfl⟩⟩
  rintro ⟨v, hv, htext⟩
  cases v with
  | text s =>
      obtain rfl := Option.some.inj htext
      exact hv
  | _ => cases htext

/-- The parts of paths to leave alone can be read. -/
theorem IsAccepted.exists_excludedPaths {c : Configuration} (h : c.IsAccepted) :
    ∃ parts, c.excludedPaths = .ok parts := by
  obtain ⟨items, hitems, -⟩ := h.exists_items "exclude_paths"
  exact ⟨_, by rw [excludedPaths, hitems]; rfl⟩

end MarkerLint.Configuration
