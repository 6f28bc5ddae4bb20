import MarkerLint.Proofs.Degradation

/-!
# What is written under a key

Entries are read one after the other into a table. What stays under a key is the last of its values
that is read: one that is left out leaves what was there before. Keyword arguments are read as the
entries of a table whose keys are their names.
-/

namespace MarkerLint

open Source

namespace Source.Expr

/-- The value that the expression is read as; none if it is left out or cannot be read. -/
def value? (e : Expr) : Option Datum :=
  match literal? e with
  | .ok value => value
  | .error _ => none

theorem value?_of_literal? {e : Expr} {value : Option Datum} (h : literal? e = .ok value) :
    e.value? = value := by
  rw [value?, h]

end Source.Expr

/-- The last value among those that expressions are read as. -/
def lastRead? (values : List Expr) : Option Datum :=
  (values.filterMap Expr.value?).getLast?

theorem lastRead?_cons (e : Expr) (rest : List Expr) :
    lastRead? (e :: rest) = (lastRead? rest).or e.value? := by
  rw [lastRead?, lastRead?]
  cases h : e.value? with
  | none => rw [List.filterMap_cons_none h, Option.or_none]
  | some v => rw [List.filterMap_cons_some h, List.getLast?_cons, Option.or_some]

section Tables

variable {k : CodeText}

/-- The values of the entries whose key is read as the given one, in order. -/
def valuesUnder (k : CodeText) : List (Option Expr × Expr) → List Expr
  | [] => []
  | (none, _) :: rest => valuesUnder k rest
  | (some key, e) :: rest =>
      match keyOf? key with
      | .ok (some other) => if other = k then e :: valuesUnder k rest else valuesUnder k rest
      | _ => valuesUnder k rest

theorem valuesUnder_cons_of_eq {key : Expr} (h : keyOf? key = .ok (some k)) (e : Expr)
    (rest : List (Option Expr × Expr)) :
    valuesUnder k ((some key, e) :: rest) = e :: valuesUnder k rest := by
  simp only [valuesUnder, h, if_true]

theorem valuesUnder_cons_of_ne {key : Expr} (h : keyOf? key ≠ .ok (some k)) (e : Expr)
    (rest : List (Option Expr × Expr)) :
    valuesUnder k ((some key, e) :: rest) = valuesUnder k rest := by
  rw [valuesUnder]
  split
  · next other hother =>
      rw [if_neg]
      rintro rfl
      exact h hother
  · rfl

theorem exists_key_of_mem_valuesUnder {entries : List (Option Expr × Expr)} {e : Expr}
    (h : e ∈ valuesUnder k entries) :
    ∃ key, (some key, e) ∈ entries ∧ keyOf? key = .ok (some k) := by
  induction entries with
  | nil => cases h
  | cons entry rest ih =>
      have hrest (h : e ∈ valuesUnder k rest) :
          ∃ key, (some key, e) ∈ entry :: rest ∧ keyOf? key = .ok (some k) := by
        obtain ⟨key, hmem, hkey⟩ := ih h
        exact ⟨key, List.mem_cons_of_mem _ hmem, hkey⟩
      obtain ⟨_ | key, value⟩ := entry
      · exact hrest h
      · by_cases hkey : keyOf? key = .ok (some k)
        · rw [valuesUnder_cons_of_eq hkey] at h
          rcases List.mem_cons.mp h with rfl | h
          · exact ⟨key, List.mem_cons_self, hkey⟩
          · exact hrest h
        · rw [valuesUnder_cons_of_ne hkey] at h
          exact hrest h

/-- The values of entries that are read are read or left out. -/
theorem exists_literal?_of_mem_valuesUnder {entries : List (Option Expr × Expr)} {e : Expr}
    {t t' : Table Datum CodeText} (h : literalEntries t entries = .ok t')
    (he : e ∈ valuesUnder k entries) : ∃ value, literal? e = .ok value := by
  obtain ⟨key, hmem, hkey⟩ := exists_key_of_mem_valuesUnder he
  exact (exists_literalEntries_iff.mp ⟨t', h⟩ key e hmem).2 ((isSome_iff_of_keyOf? hkey).mp rfl)

/-- Reading an entry writes its value under its key, or leaves the table as it is: then the entry has
no key, or its value is left out. -/
theorem literalEntries_cons_cases {entry : Option Expr × Expr} {rest : List (Option Expr × Expr)}
    {t t' : Table Datum CodeText} (h : literalEntries t (entry :: rest) = .ok t') :
    (∃ key k v, entry.1 = some key ∧ keyOf? key = .ok (some k) ∧
        literal? entry.2 = .ok (some v) ∧ literalEntries (t.insert k v) rest = .ok t') ∨
      (∀ key k, entry.1 = some key → keyOf? key = .ok (some k) → literal? entry.2 = .ok none) ∧
        literalEntries t rest = .ok t' := by
  obtain ⟨_ | key, e⟩ := entry
  · rw [literalEntries] at h
    exact .inr ⟨nofun, h⟩
  · rw [literalEntries] at h
    obtain ⟨k, hkey, h⟩ := bind_eq_ok_iff.mp h
    cases k with
    | none =>
        refine .inr ⟨?_, h⟩
        rintro _ k ⟨⟩ hk
        cases hkey.symm.trans hk
    | some k =>
        obtain ⟨value, hvalue, h⟩ := bind_eq_ok_iff.mp h
        cases value with
        | none => exact .inr ⟨fun _ _ _ _ => hvalue, h⟩
        | some v => exact .inl ⟨key, k, v, rfl, hkey, hvalue, h⟩

/-- What a table has under a key after entries were read into it: the last value of the key that is
read, or else what was there before. -/
theorem get?_literalEntries {entries : List (Option Expr × Expr)} {t t' : Table Datum CodeText}
    (h : literalEntries t entries = .ok t') (k : CodeText) :
    t'.get? k = (lastRead? (valuesUnder k entries)).or (t.get? k) := by
  induction entries generalizing t with
  | nil =>
      rw [literalEntries] at h
      cases h
      rfl
  | cons entry rest ih =>
      obtain ⟨c, e⟩ := entry
      rcases literalEntries_cons_cases h with
        ⟨key, other, v, rfl, hother, hv, h⟩ | ⟨hout, h⟩
      · rw [ih h]
        by_cases hk : other = k
        · subst hk
          rw [valuesUnder_cons_of_eq hother, lastRead?_cons, Expr.value?_of_literal? hv,
            Option.or_assoc, Table.get?_insert_self]
          rfl
        · rw [valuesUnder_cons_of_ne (by simpa [hother] using hk),
            Table.get?_insert_of_ne (Ne.symm hk)]
      · rw [ih h]
        cases c with
        | none => rfl
        | some key =>
            by_cases hk : keyOf? key = .ok (some k)
            · rw [valuesUnder_cons_of_eq hk, lastRead?_cons,
                Expr.value?_of_literal? (hout key k rfl hk), Option.or_none]
            · rw [valuesUnder_cons_of_ne hk]

end Tables

/-- A name and what is written under it. A table has the name as a key, which has its own place. -/
structure Field where
  name : String
  place : Span
  value : Expr

namespace Field

/-- The field as an entry of a table. -/
def entry (f : Field) : Option Expr × Expr :=
  (some (.constant f.place (.text f.name)), f.value)

/-- The field as a keyword argument. -/
def keyword (f : Field) : Option String × Expr :=
  (some f.name, f.value)

/-- Keyword arguments that all have a name are fields. -/
theorem exists_eq_map_keyword {ks : List (Option String × Expr)}
    (h : ∀ k ∈ ks, k.1.isSome = true) : ∃ fields : List Field, ks = fields.map keyword := by
  induction ks with
  | nil => exact ⟨[], rfl⟩
  | cons k rest ih =>
      rw [List.forall_mem_cons] at h
      obtain ⟨fields, rfl⟩ := ih h.2
      obtain ⟨_ | name, e⟩ := k
      · cases h.1
      · exact ⟨⟨name, e.span, e⟩ :: fields, rfl⟩

theorem namedKeywords?_map_keyword (fields : List Field) :
    namedKeywords? (fields.map keyword) = some (fields.map fun f => (f.name, f.value)) := by
  induction fields with
  | nil => rfl
  | cons f rest ih =>
      rw [List.map_cons, List.map_cons, keyword, namedKeywords?, ih]
      rfl

/-- Keyword arguments are read into a table as the entries under their names are. -/
theorem literalKeywords_eq_literalEntries (fields : List Field) (t : Table Datum CodeText) :
    literalKeywords t (fields.map fun f => (f.name, f.value)) =
      literalEntries t (fields.map entry) := by
  induction fields generalizing t with
  | nil => rw [List.map_nil, List.map_nil, literalKeywords, literalEntries]
  | cons f rest ih =>
      have hkey : keyOf? (.constant f.place (.text f.name)) = .ok (some f.name) := rfl
      simp only [List.map_cons, entry, literalKeywords, literalEntries, hkey, ok_bind, ih]

/-- A marker with keyword arguments is read as one with the table of their fields. -/
theorem readArguments_map_keyword (s s' t : Span) (callee callee' : Expr) {fields : List Field}
    (h : fields ≠ []) :
    readArguments (.call s callee [] (fields.map keyword)) =
      readArguments (.call s' callee' [.dict t (fields.map entry)] []) := by
  rw [readArguments_keywords s callee (by simpa using h), namedKeywords?_map_keyword, readArguments,
    ← literalKeywords_eq_literalEntries]

end Field

/-- The values of the keyword arguments with a name, in order. -/
def valuesNamed (k : String) (keywords : List (Option String × Expr)) : List Expr :=
  (keywords.filter fun keyword => keyword.1 == some k).map Prod.snd

theorem valuesUnder_map_entry (k : String) (fields : List Field) :
    valuesUnder k (fields.map Field.entry) = valuesNamed k (fields.map Field.keyword) := by
  induction fields with
  | nil => rfl
  | cons f rest ih =>
      rw [List.map_cons, List.map_cons, Field.entry, Field.keyword, valuesNamed]
      by_cases h : f.name = k
      · rw [valuesUnder_cons_of_eq (by rw [← h]; rfl), List.filter_cons_of_pos (by simp [h]), ih]
        rfl
      · rw [valuesUnder_cons_of_ne (by simpa [keyOf?] using h),
          List.filter_cons_of_neg (by simp [h]), ih]
        rfl

/-- What is written under a name in the arguments of a decorator, in order: in its table, or as
keyword arguments. -/
def Source.Expr.fieldValues (k : String) : Expr → List Expr
  | .call _ _ [.dict _ entries] [] => valuesUnder k entries
  | .call _ _ [] keywords => valuesNamed k keywords
  | _ => []

/-- What is written in arguments that were read is read or left out. -/
theorem exists_literal?_of_mem_fieldValues {k : String} {decorator e : Expr}
    {t : Table Datum CodeText} (h : readArguments decorator = .metadata t) (he : e ∈ decorator.fieldValues k) :
    ∃ value, literal? e = .ok value := by
  obtain ⟨htable, -⟩ := exists_readArguments_iff.mp ⟨t, h⟩
  cases htable with
  | table s callee place entries =>
      rw [readArguments, Reading.ofTable_eq_metadata_iff] at h
      exact exists_literal?_of_mem_valuesUnder h he
  | keywords s callee hne hnamed =>
      obtain ⟨keyword, hkeyword, rfl⟩ := List.mem_map.mp he
      exact (exists_readArguments_keywords_iff hne hnamed).mp ⟨t, h⟩ keyword
        (List.mem_of_mem_filter hkeyword)

/-- The metadata of a marker has under a name the last value that is read among those written under
it. -/
theorem get?_of_readArguments {decorator : Expr} {t : Table Datum CodeText}
    (h : readArguments decorator = .metadata t) (k : String) :
    t.get? (k : CodeText) = lastRead? (decorator.fieldValues k) := by
  obtain ⟨htable, -⟩ := exists_readArguments_iff.mp ⟨t, h⟩
  cases htable with
  | table s callee place entries =>
      rw [readArguments, Reading.ofTable_eq_metadata_iff] at h
      rw [get?_literalEntries h, Expr.fieldValues]
      exact Option.or_none
  | keywords s callee hne hnamed =>
      obtain ⟨fields, rfl⟩ := Field.exists_eq_map_keyword hnamed
      rw [Field.readArguments_map_keyword s s s callee callee (by simpa using hne), readArguments,
        Reading.ofTable_eq_metadata_iff] at h
      rw [get?_literalEntries h, valuesUnder_map_entry, Expr.fieldValues]
      exact Option.or_none

end MarkerLint
