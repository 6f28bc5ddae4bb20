/-!
# Tables

Entries under distinct keys, in the order in which the keys were first written. Writing a key again
replaces its entry and keeps its place. Keys are strings unless something else is said.
-/

namespace MarkerLint

/-- Entries in order. A table built by `Table.insert` has distinct keys. -/
abbrev Table (α : Type) (κ : Type := String) := List (κ × α)

namespace Table

variable {α κ : Type} [DecidableEq κ]

/-- The entry under a key. -/
def get? (key : κ) : Table α κ → Option α
  | [] => none
  | (k, v) :: rest => if k = key then some v else get? key rest

/-- The table with an entry written under a key. -/
def insert (key : κ) (value : α) : Table α κ → Table α κ
  | [] => [(key, value)]
  | (k, v) :: rest => if k = key then (k, value) :: rest else (k, v) :: insert key value rest

/-- The table without the entry under a key. -/
def erase (key : κ) : Table α κ → Table α κ
  | [] => []
  | (k, v) :: rest => if k = key then rest else (k, v) :: erase key rest

/-- The keys in order. -/
def keys (t : Table α κ) : List κ :=
  t.map (·.1)

/-- The table in which the entries have been written one after the other. -/
def ofList (entries : List (κ × α)) : Table α κ :=
  entries.foldl (fun t e => insert e.1 e.2 t) []

@[simp] theorem get?_insert_self (key : κ) (value : α) (t : Table α κ) :
    (t.insert key value).get? key = some value := by
  induction t with
  | nil => simp [insert, get?]
  | cons e rest ih =>
      obtain ⟨k, v⟩ := e
      by_cases h : k = key
      · simp [insert, get?, h]
      · simp [insert, get?, h, ih]

theorem get?_insert_of_ne {key other : κ} (h : other ≠ key) (value : α) (t : Table α κ) :
    (t.insert key value).get? other = t.get? other := by
  induction t with
  | nil => simp [insert, get?, Ne.symm h]
  | cons e rest ih =>
      obtain ⟨k, v⟩ := e
      by_cases hk : k = key
      · subst hk
        simp [insert, get?, Ne.symm h]
      · by_cases ho : k = other
        · subst ho
          simp [insert, get?, h]
        · simp [insert, get?, hk, ho, ih]

/-- Writing a key keeps the order of the keys; a new one comes last. -/
theorem keys_insert (key : κ) (value : α) (t : Table α κ) :
    (t.insert key value).keys = if key ∈ t.keys then t.keys else t.keys ++ [key] := by
  induction t with
  | nil => simp [insert, keys]
  | cons e rest ih =>
      obtain ⟨k, v⟩ := e
      by_cases h : k = key
      · simp [insert, keys, h]
      · simp only [keys] at ih
        by_cases hr : key ∈ rest.map (·.1)
        · simp [insert, h, keys, ih, hr]
        · simp [insert, h, keys, ih, hr, Ne.symm h]

theorem mem_keys_insert {key other : κ} {value : α} {t : Table α κ} :
    other ∈ (t.insert key value).keys ↔ other = key ∨ other ∈ t.keys := by
  rw [keys_insert]
  split
  · next h =>
      constructor
      · exact .inr
      · rintro (rfl | ho)
        · exact h
        · exact ho
  · rw [List.mem_append, List.mem_singleton, or_comm]

theorem nodup_keys_insert {t : Table α κ} (h : t.keys.Nodup) (key : κ) (value : α) :
    (t.insert key value).keys.Nodup := by
  rw [keys_insert]
  split
  · exact h
  · next hkey =>
      refine List.nodup_append.mpr ⟨h, by simp, ?_⟩
      rintro a ha b hb rfl
      exact hkey (List.mem_singleton.mp hb ▸ ha)

/-- Writing a new key puts its entry at the end. -/
theorem insert_of_notMem {key : κ} {t : Table α κ} (h : key ∉ t.keys) (value : α) :
    t.insert key value = t ++ [(key, value)] := by
  induction t with
  | nil => rfl
  | cons e rest ih =>
      obtain ⟨k, v⟩ := e
      simp only [keys, List.map_cons, List.mem_cons, not_or] at h
      rw [insert, if_neg (Ne.symm h.1), ih h.2, List.cons_append]

theorem mem_insert {key : κ} {value : α} {t : Table α κ} {e : κ × α}
    (h : e ∈ t.insert key value) : e = (key, value) ∨ e ∈ t := by
  induction t with
  | nil => exact .inl (List.mem_singleton.mp h)
  | cons d rest ih =>
      obtain ⟨k, v⟩ := d
      rw [insert] at h
      split at h
      · next hk =>
          subst hk
          exact (List.mem_cons.mp h).imp_right (List.mem_cons_of_mem _)
      · rcases List.mem_cons.mp h with rfl | h
        · exact .inr List.mem_cons_self
        · exact (ih h).imp_right (List.mem_cons_of_mem _)

theorem mem_of_mem_foldl_insert {entries : List (κ × α)} {t : Table α κ} {e : κ × α}
    (h : e ∈ entries.foldl (fun t e => insert e.1 e.2 t) t) : e ∈ entries ∨ e ∈ t := by
  induction entries generalizing t with
  | nil => exact .inr h
  | cons d rest ih =>
      rcases ih h with h | h
      · exact .inl (List.mem_cons_of_mem d h)
      · rcases mem_insert h with rfl | h
        · exact .inl List.mem_cons_self
        · exact .inr h

theorem mem_of_mem_ofList {entries : List (κ × α)} {e : κ × α} (h : e ∈ ofList entries) :
    e ∈ entries :=
  (mem_of_mem_foldl_insert h).resolve_right List.not_mem_nil

theorem get?_eq_none_iff {key : κ} {t : Table α κ} : t.get? key = none ↔ key ∉ t.keys := by
  induction t with
  | nil => simp [get?, keys]
  | cons e rest ih =>
      obtain ⟨k, v⟩ := e
      by_cases h : k = key
      · simp [get?, keys, h]
      · simp only [keys] at ih
        simp [get?, keys, h, ih, Ne.symm h]

theorem mem_of_get?_eq_some {key : κ} {value : α} {t : Table α κ}
    (h : t.get? key = some value) : (key, value) ∈ t := by
  induction t with
  | nil => cases h
  | cons e rest ih =>
      obtain ⟨k, v⟩ := e
      by_cases hk : k = key
      · rw [get?, if_pos hk, Option.some.injEq] at h
        simp [hk, h]
      · rw [get?, if_neg hk] at h
        exact List.mem_cons_of_mem _ (ih h)

/-- Keys being distinct, every entry is found under its key. -/
theorem get?_eq_some_of_mem {key : κ} {value : α} {t : Table α κ} (hn : t.keys.Nodup)
    (h : (key, value) ∈ t) : t.get? key = some value := by
  induction t with
  | nil => cases h
  | cons e rest ih =>
      obtain ⟨k, v⟩ := e
      simp only [keys, List.map_cons, List.nodup_cons] at hn
      rcases List.mem_cons.mp h with he | hr
      · cases he
        rw [get?, if_pos rfl]
      · have hk : k ≠ key := by
          rintro rfl
          exact hn.1 (List.mem_map.mpr ⟨_, hr, rfl⟩)
        rw [get?, if_neg hk]
        exact ih hn.2 hr

/-- The entry that is found under a key is the one that is taken out with it. -/
theorem exists_append_of_get? {key : κ} {value : α} {t : Table α κ}
    (h : t.get? key = some value) :
    ∃ before after, t = before ++ (key, value) :: after ∧ t.erase key = before ++ after := by
  induction t with
  | nil => cases h
  | cons e rest ih =>
      obtain ⟨k, v⟩ := e
      by_cases hk : k = key
      · rw [get?, if_pos hk, Option.some.injEq] at h
        subst hk h
        exact ⟨[], rest, rfl, by rw [erase, if_pos rfl, List.nil_append]⟩
      · rw [get?, if_neg hk] at h
        obtain ⟨before, after, rfl, herase⟩ := ih h
        exact ⟨(k, v) :: before, after, rfl, by rw [erase, if_neg hk, herase, List.cons_append]⟩

theorem get?_erase_of_ne {key other : κ} (h : other ≠ key) (t : Table α κ) :
    (t.erase key).get? other = t.get? other := by
  induction t with
  | nil => rfl
  | cons e rest ih =>
      obtain ⟨k, v⟩ := e
      by_cases hk : k = key
      · rw [erase, if_pos hk, get?, if_neg (hk ▸ Ne.symm h)]
      · rw [erase, if_neg hk, get?, get?, ih]

theorem get?_erase_self {key : κ} {t : Table α κ} (hn : t.keys.Nodup) :
    (t.erase key).get? key = none := by
  induction t with
  | nil => rfl
  | cons e rest ih =>
      obtain ⟨k, v⟩ := e
      obtain ⟨hnotMem, hrest⟩ := List.nodup_cons.mp hn
      by_cases hk : k = key
      · subst hk
        rw [erase, if_pos rfl, get?_eq_none_iff]
        exact hnotMem
      · rw [erase, if_neg hk, get?, if_neg hk, ih hrest]

/-- Writing entries with distinct new keys puts them at the end in order. -/
theorem foldl_insert_of_nodup (entries : List (κ × α)) (t : Table α κ)
    (hn : (t.keys ++ entries.map (·.1)).Nodup) :
    entries.foldl (fun t e => insert e.1 e.2 t) t = t ++ entries := by
  induction entries generalizing t with
  | nil => simp
  | cons e rest ih =>
      have hk : e.1 ∉ t.keys := fun h =>
        (List.nodup_append.mp hn).2.2 _ h e.1 (by simp) rfl
      rw [List.foldl_cons, insert_of_notMem hk, ih, List.append_assoc, List.singleton_append]
      simpa [keys] using hn

/-- Entries under distinct keys are a table as they stand. -/
theorem ofList_eq_self {entries : List (κ × α)} (hn : (entries.map (·.1)).Nodup) :
    ofList entries = entries := by
  simpa [ofList] using foldl_insert_of_nodup entries [] (by simpa [keys] using hn)

end Table

end MarkerLint
