import Mathlib.Data.List.Forall2
import MarkerLint.Proofs.Literals

/-!
# What degrades a marker

The arguments of a marker are read exactly if they have the form of a table and every name or
attribute that the reading comes to can be written as text. What stands at any other place has no
influence: it may be replaced, by something malformed too, without any marker changing.
-/

namespace MarkerLint

open Source

namespace Source.Expr

/-- What a decorator calls, or the decorator itself if it is no call. -/
def callee : Expr → Expr
  | .call _ f _ _ => f
  | e => e

/-- A name, or the last segment of an attribute. -/
def lastSegment? : Expr → Option String
  | .name _ id => some id
  | .attribute _ _ attr => some attr
  | _ => none

/-- The decorator is a marker: what it calls ends in a name of the vocabulary. -/
def isMarker (decorator : Expr) : Bool :=
  decorator.callee.lastSegment?.any vocabulary.contains

/-- A name or an attribute, which is read as its text. -/
inductive IsReference : Expr → Prop
  | name (s : Span) (id : String) : IsReference (.name s id)
  | attribute (s : Span) (base : Expr) (attr : String) : IsReference (.attribute s base attr)
  | malformed (s : Span) : IsReference (.malformed s)

/-- The key of an entry that is read: a text, a name or an attribute. -/
inductive IsKey : Expr → Prop
  | text (s : Span) (t : CodeText) : IsKey (.constant s (.text t))
  | reference {e : Expr} (h : e.IsReference) : IsKey e

/-- The names and attributes that the reading of an expression comes to: through the items of
sequences, the keys of entries, and the values of entries that have a key. -/
inductive Reaches : Expr → Expr → Prop
  | reference {e : Expr} (h : e.IsReference) : Reaches e e
  | item {s : Span} {kind : SequenceKind} {items : List Expr} {e n : Expr} (he : e ∈ items)
      (hn : Reaches e n) : Reaches (.sequence s kind items) n
  | key {s : Span} {entries : List (Option Expr × Expr)} {k e : Expr} (he : (some k, e) ∈ entries)
      (hk : k.IsReference) : Reaches (.dict s entries) k
  | value {s : Span} {entries : List (Option Expr × Expr)} {k e n : Expr}
      (he : (some k, e) ∈ entries) (hk : k.IsKey) (hn : Reaches e n) : Reaches (.dict s entries) n

/-- The expression can be written as text. -/
def HasText (e : Expr) : Prop :=
  ∃ text, e.text? = .ok text

/-- The decorator passes a table: one table and nothing else, or keyword arguments that all have a
name. -/
inductive PassesTable : Expr → Prop
  | table (s : Span) (callee : Expr) (t : Span) (entries : List (Option Expr × Expr)) :
      PassesTable (.call s callee [.dict t entries] [])
  | keywords (s : Span) (callee : Expr) {ks : List (Option String × Expr)} (hne : ks ≠ [])
      (hnamed : ∀ k ∈ ks, k.1.isSome = true) : PassesTable (.call s callee [] ks)

/-- The names and attributes that the reading of a decorator's arguments comes to. -/
inductive PassesReference : Expr → Expr → Prop
  | table {s t : Span} {callee n : Expr} {entries : List (Option Expr × Expr)}
      (hn : (Expr.dict t entries).Reaches n) :
      PassesReference (.call s callee [.dict t entries] []) n
  | keyword {s : Span} {callee e n : Expr} {ks : List (Option String × Expr)} {k : Option String}
      (he : (k, e) ∈ ks) (hn : e.Reaches n) : PassesReference (.call s callee [] ks) n

/-- An expression of a form that is left out whole. -/
inductive IsLeftOut : Expr → Prop
  | call (s : Span) (callee : Expr) (args : List Expr) (ks : List (Option String × Expr)) :
      IsLeftOut (.call s callee args ks)
  | embedded (s : Span) (value : Expr) (format : String) : IsLeftOut (.embedded s value format)
  | subscript (s : Span) (value index : Expr) : IsLeftOut (.subscript s value index)
  | starred (s : Span) (value : Expr) : IsLeftOut (.starred s value)
  | computed (s : Span) (strength : Nat) (text : Option String) :
      IsLeftOut (.computed s strength text)

/-- The expression is a number as it is written in a source. -/
def isNumber : Expr → Bool
  | .constant _ (.integer _) => true
  | .constant _ (.float _) => true
  | _ => false

/-- The expression is a text as it is written in a source. -/
def isTextConstant : Expr → Bool
  | .constant _ (.text _) => true
  | _ => false

/-- Two expressions that differ at one place only, which is not read: an expression that is left out
whole, the operand of a sign that is no number, an expression embedded in a text, a table that is
spread, or an entry without a key. The place may be nested in sequences and tables to any depth. -/
inductive DiffersUnread : Expr → Expr → Prop
  | leftOut {e e' : Expr} (h : e.IsLeftOut) (h' : e'.IsLeftOut) : DiffersUnread e e'
  | operand {s : Span} {op : String} {e e' : Expr} (h : e.isNumber = false)
      (h' : e'.isNumber = false) : DiffersUnread (.unary s op e) (.unary s op e')
  | part {s : Span} {before after : List Expr} {e e' : Expr} (h : e.isTextConstant = false)
      (h' : e'.isTextConstant = false) :
      DiffersUnread (.joined s (before ++ e :: after)) (.joined s (before ++ e' :: after))
  | item {s : Span} {kind : SequenceKind} {before after : List Expr} {e e' : Expr}
      (h : DiffersUnread e e') :
      DiffersUnread (.sequence s kind (before ++ e :: after))
        (.sequence s kind (before ++ e' :: after))
  | spread {s : Span} {before after : List (Option Expr × Expr)} {e e' : Expr} :
      DiffersUnread (.dict s (before ++ (none, e) :: after))
        (.dict s (before ++ (none, e') :: after))
  | keyless {s : Span} {before after : List (Option Expr × Expr)} {k k' e e' : Expr}
      (h : ¬ k.IsKey) (h' : ¬ k'.IsKey) :
      DiffersUnread (.dict s (before ++ (some k, e) :: after))
        (.dict s (before ++ (some k', e') :: after))
  | value {s : Span} {before after : List (Option Expr × Expr)} {k e e' : Expr}
      (h : DiffersUnread e e') :
      DiffersUnread (.dict s (before ++ (some k, e) :: after))
        (.dict s (before ++ (some k, e') :: after))

/-- Two decorators whose arguments differ at one place that is not read. -/
inductive PassesUnread : Expr → Expr → Prop
  | table {s t : Span} {callee : Expr} {entries entries' : List (Option Expr × Expr)}
      (h : DiffersUnread (.dict t entries) (.dict t entries')) :
      PassesUnread (.call s callee [.dict t entries] []) (.call s callee [.dict t entries'] [])
  | keyword {s : Span} {callee : Expr} {before after : List (Option String × Expr)}
      {k : Option String} {e e' : Expr} (h : DiffersUnread e e') :
      PassesUnread (.call s callee [] (before ++ (k, e) :: after))
        (.call s callee [] (before ++ (k, e') :: after))

theorem reaches_sequence_iff {s : Span} {kind : SequenceKind} {items : List Expr} {n : Expr} :
    (Expr.sequence s kind items).Reaches n ↔ ∃ e ∈ items, e.Reaches n := by
  constructor
  · intro h
    cases h with
    | reference h => cases h
    | item he hn => exact ⟨_, he, hn⟩
  · rintro ⟨e, he, hn⟩
    exact .item he hn

theorem reaches_dict_iff {s : Span} {entries : List (Option Expr × Expr)} {n : Expr} :
    (Expr.dict s entries).Reaches n ↔
      ∃ k e, (some k, e) ∈ entries ∧ (k.IsReference ∧ n = k ∨ k.IsKey ∧ e.Reaches n) := by
  constructor
  · intro h
    cases h with
    | reference h => cases h
    | key he hk => exact ⟨_, _, he, .inl ⟨hk, rfl⟩⟩
    | value he hk hn => exact ⟨_, _, he, .inr ⟨hk, hn⟩⟩
  · rintro ⟨k, e, he, ⟨hk, rfl⟩ | ⟨hk, hn⟩⟩
    · exact .key he hk
    · exact .value he hk hn

theorem sizeOf_lt_of_mem_entries {k e : Expr} {entries : List (Option Expr × Expr)}
    (he : (some k, e) ∈ entries) : sizeOf e < sizeOf entries := by
  have hentry := List.sizeOf_lt_of_mem he
  rw [Prod.mk.sizeOf_spec] at hentry
  omega

theorem IsReference.reaches_iff {e n : Expr} (h : e.IsReference) : e.Reaches n ↔ n = e := by
  constructor
  · intro hn
    cases hn with
    | reference => rfl
    | item => cases h
    | key => cases h
    | value => cases h
  · rintro rfl
    exact .reference h

end Source.Expr

section Reading

/-- A key is read unless it is a name or an attribute without a text. -/
theorem exists_keyOf?_iff : ∀ {k : Expr},
    (∃ key, keyOf? k = .ok key) ↔ (k.IsReference → k.HasText)
  | .name s id => ⟨fun _ _ => ⟨id, by rw [Expr.text?]⟩, fun _ => ⟨some id, rfl⟩⟩
  | .attribute s base attr => by
      constructor
      · rintro ⟨key, hkey⟩ _
        obtain ⟨text, htext, -⟩ := map_eq_ok_iff.mp hkey
        exact ⟨text, htext⟩
      · intro h
        obtain ⟨text, htext⟩ := h (.attribute s base attr)
        exact ⟨some text, map_eq_ok_iff.mpr ⟨text, htext, rfl⟩⟩
  | .malformed s => by
      constructor
      · rintro ⟨key, hkey⟩
        cases hkey
      · intro h
        obtain ⟨text, htext⟩ := h (.malformed s)
        rw [Expr.text?] at htext
        cases htext
  | .constant s c => by
      refine ⟨fun _ h => (by cases h), fun _ => ?_⟩
      cases c <;> exact ⟨_, rfl⟩
  | .unary .. | .sequence .. | .dict .. | .joined .. | .call .. | .embedded .. | .subscript ..
  | .starred .. | .computed .. => ⟨fun _ h => (by cases h), fun _ => ⟨none, rfl⟩⟩

/-- Exactly the keys that are texts, names or attributes stand for one. -/
theorem isSome_iff_of_keyOf? {k : Expr} {key : Option CodeText} (h : keyOf? k = .ok key) :
    key.isSome = true ↔ k.IsKey := by
  rw [keyOf?.eq_def] at h
  split at h
  · next s t =>
      cases h
      exact ⟨fun _ => .text s t, fun _ => rfl⟩
  · next s id =>
      cases h
      exact ⟨fun _ => .reference (.name s id), fun _ => rfl⟩
  · next s base attr =>
      obtain ⟨text, -, rfl⟩ := map_eq_ok_iff.mp h
      exact ⟨fun _ => .reference (.attribute s base attr), fun _ => rfl⟩
  · cases h
  · next htext hname hattribute hmalformed =>
      cases h
      refine ⟨fun hsome => (by cases hsome), fun hk => ?_⟩
      cases hk with
      | text s t => exact absurd rfl (htext s t)
      | reference hk =>
          rcases hk with ⟨s, id⟩ | ⟨s, base, attr⟩ | ⟨s⟩
          · exact absurd rfl (hname s id)
          · exact absurd rfl (hattribute s base attr)
          · exact absurd rfl (hmalformed s)

/-- A sequence is read if each of its items is. -/
theorem exists_literalItems_iff {items : List Expr} :
    (∃ values, literalItems items = .ok values) ↔ ∀ e ∈ items, ∃ value, literal? e = .ok value := by
  induction items with
  | nil => exact ⟨fun _ e he => (by cases he), fun _ => ⟨[], by rw [literalItems]⟩⟩
  | cons e rest ih =>
      rw [literalItems, List.forall_mem_cons, ← ih]
      constructor
      · rintro ⟨values, h⟩
        obtain ⟨value, hvalue, h⟩ := bind_eq_ok_iff.mp h
        obtain ⟨others, hothers, -⟩ := bind_eq_ok_iff.mp h
        exact ⟨⟨value, hvalue⟩, others, hothers⟩
      · rintro ⟨⟨value, hvalue⟩, others, hothers⟩
        exact ⟨_, bind_eq_ok_iff.mpr ⟨value, hvalue, bind_eq_ok_iff.mpr ⟨others, hothers, rfl⟩⟩⟩

/-- An entry is read before the others: its key, and its value if the key stands for one. Whether the
others are read does not depend on the table that they are written into. -/
theorem exists_literalEntries_cons_iff {k e : Expr} {rest : List (Option Expr × Expr)}
    {others : Prop} (hrest : ∀ t, (∃ t', literalEntries t rest = .ok t') ↔ others)
    (t : Table Datum CodeText) :
    (∃ t', literalEntries t ((some k, e) :: rest) = .ok t') ↔
      ((∃ key, keyOf? k = .ok key) ∧ (k.IsKey → ∃ value, literal? e = .ok value)) ∧ others := by
  rw [literalEntries]
  constructor
  · rintro ⟨t', h⟩
    obtain ⟨key, hkey, h⟩ := bind_eq_ok_iff.mp h
    have hsome := isSome_iff_of_keyOf? hkey
    cases key with
    | none =>
        exact ⟨⟨⟨none, hkey⟩, fun hk => (by cases hsome.mpr hk)⟩, (hrest t).mp ⟨t', h⟩⟩
    | some key =>
        obtain ⟨value, hvalue, h⟩ := bind_eq_ok_iff.mp h
        refine ⟨⟨⟨some key, hkey⟩, fun _ => ⟨value, hvalue⟩⟩, ?_⟩
        cases value with
        | none => exact (hrest t).mp ⟨t', h⟩
        | some v => exact (hrest (t.insert key v)).mp ⟨t', h⟩
  · rintro ⟨⟨⟨key, hkey⟩, hvalue⟩, hothers⟩
    rw [hkey, ok_bind]
    cases key with
    | none => exact (hrest t).mpr hothers
    | some key =>
        obtain ⟨value, hvalue⟩ := hvalue ((isSome_iff_of_keyOf? hkey).mp rfl)
        simp only [hvalue, ok_bind]
        cases value with
        | none => exact (hrest t).mpr hothers
        | some v => exact (hrest (t.insert key v)).mpr hothers

/-- Entries are read if each of their keys is, and the value of each entry that has a key. -/
theorem exists_literalEntries_iff {entries : List (Option Expr × Expr)} {t : Table Datum CodeText} :
    (∃ t', literalEntries t entries = .ok t') ↔
      ∀ k e, (some k, e) ∈ entries →
        (∃ key, keyOf? k = .ok key) ∧ (k.IsKey → ∃ value, literal? e = .ok value) := by
  induction entries generalizing t with
  | nil => exact ⟨fun _ k e he => (by cases he), fun _ => ⟨t, by rw [literalEntries]⟩⟩
  | cons entry rest ih =>
      obtain ⟨key, e⟩ := entry
      cases key with
      | none =>
          rw [literalEntries, ih]
          constructor
          · intro h k v hv
            exact h k v ((List.mem_cons.mp hv).resolve_left (by simp))
          · intro h k v hv
            exact h k v (List.mem_cons_of_mem _ hv)
      | some k =>
          rw [exists_literalEntries_cons_iff fun t => @ih t]
          constructor
          · rintro ⟨hhere, hothers⟩ k' e' he
            rcases List.mem_cons.mp he with heq | he
            · obtain ⟨hk, rfl⟩ := Prod.mk.inj heq
              obtain rfl := Option.some.inj hk
              exact hhere
            · exact hothers k' e' he
          · intro h
            exact ⟨h k e List.mem_cons_self, fun k' e' he => h k' e' (List.mem_cons_of_mem _ he)⟩

theorem exists_literalKeywords_iff {keywords : List (String × Expr)} {t : Table Datum CodeText} :
    (∃ t', literalKeywords t keywords = .ok t') ↔
      ∀ e ∈ keywords, ∃ value, literal? e.2 = .ok value := by
  induction keywords generalizing t with
  | nil => exact ⟨fun _ e he => (by cases he), fun _ => ⟨t, rfl⟩⟩
  | cons e rest ih =>
      rw [List.forall_mem_cons, literalKeywords]
      constructor
      · rintro ⟨t', h⟩
        obtain ⟨value, hvalue, h⟩ := bind_eq_ok_iff.mp h
        refine ⟨⟨value, hvalue⟩, ?_⟩
        cases value with
        | none => exact ih.mp ⟨t', h⟩
        | some v => exact ih.mp ⟨t', h⟩
      · rintro ⟨⟨value, hvalue⟩, hothers⟩
        rw [hvalue, ok_bind]
        cases value with
        | none => exact ih.mpr hothers
        | some v => exact ih.mpr hothers

theorem exists_literal?_sequence_iff {s : Span} {kind : SequenceKind} {items : List Expr} :
    (∃ value, literal? (.sequence s kind items) = .ok value) ↔
      ∃ values, literalItems items = .ok values := by
  rw [literal?]
  constructor
  · rintro ⟨value, h⟩
    obtain ⟨values, hvalues, -⟩ := bind_eq_ok_iff.mp h
    exact ⟨values, hvalues⟩
  · rintro ⟨values, hvalues⟩
    exact ⟨_, bind_eq_ok_iff.mpr ⟨values, hvalues, rfl⟩⟩

theorem exists_literal?_dict_iff {s : Span} {entries : List (Option Expr × Expr)} :
    (∃ value, literal? (.dict s entries) = .ok value) ↔
      ∃ t, literalEntries [] entries = .ok t := by
  rw [literal?]
  constructor
  · rintro ⟨value, h⟩
    obtain ⟨t, ht, -⟩ := bind_eq_ok_iff.mp h
    exact ⟨t, ht⟩
  · rintro ⟨t, ht⟩
    exact ⟨_, bind_eq_ok_iff.mpr ⟨t, ht, rfl⟩⟩

/-- Forms that are left out come to no name or attribute. -/
theorem exists_literal?_iff_of_not_reaches {e : Expr} {value : Option Datum}
    (hread : literal? e = .ok value) (h : ∀ n, ¬ e.Reaches n) :
    (∃ value, literal? e = .ok value) ↔ ∀ n, e.Reaches n → n.HasText :=
  ⟨fun _ n hn => absurd hn (h n), fun _ => ⟨value, hread⟩⟩

/-- An expression is read exactly if every name or attribute that its reading comes to can be written
as text. The recursion is on the expression; the lists in it are gone through by the lemmas above. -/
theorem exists_literal?_iff : ∀ e : Expr,
    (∃ value, literal? e = .ok value) ↔ ∀ n, e.Reaches n → n.HasText
  | .name s id => by
      refine ⟨fun _ n hn => ?_, fun _ => ⟨some (.text id), by rw [literal?]⟩⟩
      obtain rfl := (Expr.IsReference.name s id).reaches_iff.mp hn
      exact ⟨id, by rw [Expr.text?]⟩
  | .attribute s base attr => by
      have href := Expr.IsReference.attribute s base attr
      rw [literal?]
      constructor
      · rintro ⟨value, h⟩ n hn
        obtain rfl := href.reaches_iff.mp hn
        obtain ⟨text, htext, -⟩ := map_eq_ok_iff.mp h
        exact ⟨text, htext⟩
      · intro h
        obtain ⟨text, htext⟩ := h _ (.reference href)
        exact ⟨_, map_eq_ok_iff.mpr ⟨text, htext, rfl⟩⟩
  | .malformed s => by
      rw [literal?]
      constructor
      · rintro ⟨value, h⟩
        cases h
      · intro h
        obtain ⟨text, htext⟩ := h _ (.reference (.malformed s))
        rw [Expr.text?] at htext
        cases htext
  | .sequence s kind items => by
      rw [exists_literal?_sequence_iff, exists_literalItems_iff]
      constructor
      · intro h n hn
        obtain ⟨e, he, hn⟩ := Expr.reaches_sequence_iff.mp hn
        exact (exists_literal?_iff e).mp (h e he) n hn
      · intro h e he
        exact (exists_literal?_iff e).mpr fun n hn => h n (.item he hn)
  | .dict s entries => by
      rw [exists_literal?_dict_iff, exists_literalEntries_iff]
      constructor
      · intro h n hn
        obtain ⟨k, e, he, ⟨hk, rfl⟩ | ⟨hk, hn⟩⟩ := Expr.reaches_dict_iff.mp hn
        · exact exists_keyOf?_iff.mp (h n e he).1 hk
        · have hsize := Expr.sizeOf_lt_of_mem_entries he
          exact (exists_literal?_iff e).mp ((h k e he).2 hk) n hn
      · intro h k e he
        have hsize := Expr.sizeOf_lt_of_mem_entries he
        refine ⟨exists_keyOf?_iff.mpr fun hk => h k (.key he hk), fun hk => ?_⟩
        exact (exists_literal?_iff e).mpr fun n hn => h n (.value he hk hn)
  | .constant s c => exists_literal?_iff_of_not_reaches (by rw [literal?]) nofun
  | .unary s op operand => exists_literal?_iff_of_not_reaches (by rw [literal?]) nofun
  | .joined s parts => exists_literal?_iff_of_not_reaches (by rw [literal?]) nofun
  | .call s callee args keywords => exists_literal?_iff_of_not_reaches (by rw [literal?]) nofun
  | .embedded s value format => exists_literal?_iff_of_not_reaches (by rw [literal?]) nofun
  | .subscript s value index => exists_literal?_iff_of_not_reaches (by rw [literal?]) nofun
  | .starred s value => exists_literal?_iff_of_not_reaches (by rw [literal?]) nofun
  | .computed s strength text => exists_literal?_iff_of_not_reaches (by rw [literal?]) nofun
termination_by e => sizeOf e

/-- Keyword arguments have names if each of them has one. -/
theorem exists_namedKeywords?_iff {ks : List (Option String × Expr)} :
    (∃ keywords, namedKeywords? ks = some keywords) ↔ ∀ k ∈ ks, k.1.isSome = true := by
  induction ks with
  | nil => exact ⟨fun _ k hk => (by cases hk), fun _ => ⟨[], rfl⟩⟩
  | cons k rest ih =>
      obtain ⟨name, e⟩ := k
      rw [List.forall_mem_cons, ← ih]
      cases name with
      | none => simp [namedKeywords?]
      | some name => simp [namedKeywords?]

theorem eq_map_of_namedKeywords? {ks : List (Option String × Expr)}
    {keywords : List (String × Expr)} (h : namedKeywords? ks = some keywords) :
    ks = keywords.map fun e => (some e.1, e.2) := by
  induction ks generalizing keywords with
  | nil =>
      cases h
      rfl
  | cons k rest ih =>
      obtain ⟨name, e⟩ := k
      cases name with
      | none => cases h
      | some name =>
          obtain ⟨others, hothers, rfl⟩ := Option.map_eq_some_iff.mp h
          rw [ih hothers, List.map_cons]

/-- The reading of keyword arguments. -/
theorem readArguments_keywords (s : Span) (f : Expr) {ks : List (Option String × Expr)}
    (hne : ks ≠ []) :
    readArguments (.call s f [] ks) =
      match namedKeywords? ks with
      | some keywords => .ofTable (literalKeywords [] keywords)
      | none => .notATable := by
  cases ks with
  | nil => exact absurd rfl hne
  | cons k ks => rfl

theorem exists_readArguments_table_iff {s t : Span} {callee : Expr}
    {entries : List (Option Expr × Expr)} :
    (∃ m, readArguments (.call s callee [.dict t entries] []) = .metadata m) ↔
      ∃ value, literal? (.dict t entries) = .ok value := by
  simp only [readArguments, Reading.ofTable_eq_metadata_iff, exists_literal?_dict_iff]

theorem exists_readArguments_keywords_iff {s : Span} {callee : Expr}
    {ks : List (Option String × Expr)} (hne : ks ≠ []) (hnamed : ∀ k ∈ ks, k.1.isSome = true) :
    (∃ m, readArguments (.call s callee [] ks) = .metadata m) ↔
      ∀ k ∈ ks, ∃ value, literal? k.2 = .ok value := by
  obtain ⟨keywords, hkeywords⟩ := exists_namedKeywords?_iff.mpr hnamed
  rw [readArguments_keywords s callee hne, hkeywords]
  simp only [Reading.ofTable_eq_metadata_iff, exists_literalKeywords_iff,
    eq_map_of_namedKeywords? hkeywords, List.forall_mem_map]

/-- Arguments of any other form are no table. -/
theorem readArguments_of_not_passesTable {e : Expr} (h : ¬ e.PassesTable) :
    readArguments e = .notATable := by
  rw [readArguments.eq_def]
  split
  · next s callee t entries => exact absurd (.table s callee t entries) h
  · next s callee k ks =>
      cases hkeywords : namedKeywords? (k :: ks) with
      | none => rfl
      | some keywords =>
          have hnamed := exists_namedKeywords?_iff.mp ⟨keywords, hkeywords⟩
          exact absurd (.keywords s callee (List.cons_ne_nil k ks) hnamed) h
  · rfl

/-- Arguments are read exactly if they pass a table and every name or attribute that the reading
comes to can be written as text. -/
theorem exists_readArguments_iff {e : Expr} :
    (∃ t, readArguments e = .metadata t) ↔
      e.PassesTable ∧ ∀ n, e.PassesReference n → n.HasText := by
  by_cases htable : e.PassesTable
  · rw [and_iff_right htable]
    cases htable with
    | table s callee t entries =>
        rw [exists_readArguments_table_iff, exists_literal?_iff]
        constructor
        · intro h n hn
          cases hn with
          | table hn => exact h n hn
        · intro h n hn
          exact h n (.table hn)
    | keywords s callee hne hnamed =>
        simp only [exists_readArguments_keywords_iff hne hnamed, exists_literal?_iff]
        constructor
        · intro h n hn
          cases hn with
          | keyword hk hn => exact h _ hk n hn
        · intro h k hk n hn
          exact h n (.keyword hk hn)
  · rw [readArguments_of_not_passesTable htable]
    constructor
    · rintro ⟨t, ht⟩
      cases ht
    · rintro ⟨h, -⟩
      exact absurd h htable

end Reading

section Unread

open Expr

theorem signedNumber?_of_not_isNumber (op : String) {e : Expr} (h : e.isNumber = false) :
    signedNumber? op e = none := by
  rw [signedNumber?.eq_def]
  split
  · cases h
  · cases h
  · rfl

theorem Source.Expr.IsLeftOut.literal?_eq {e : Expr} (h : e.IsLeftOut) : literal? e = .ok none := by
  cases h <;> rw [literal?]

theorem keyOf?_of_not_isKey {k : Expr} (h : ¬ k.IsKey) : keyOf? k = .ok none := by
  obtain ⟨key, hkey⟩ := exists_keyOf?_iff.mpr fun hk : k.IsReference => absurd (.reference hk) h
  have hnone : key = none := by
    rw [← Option.not_isSome_iff_eq_none, isSome_iff_of_keyOf? hkey]
    exact h
  rw [hkey, hnone]

/-- An expression embedded in a text stands as the placeholder, whatever it is. -/
theorem joinedValue_congr {e e' : Expr} (h : e.isTextConstant = false)
    (h' : e'.isTextConstant = false) (before after : List Expr) :
    joinedValue (before ++ e :: after) = joinedValue (before ++ e' :: after) := by
  rw [joinedValue, joinedValue, List.flatMap_append, List.flatMap_append, List.flatMap_cons,
    List.flatMap_cons]
  congr 2
  split
  · cases h
  · split
    · cases h'
    · rfl

/-- Items are read one by one: one that is read alike may stand for another. -/
theorem literalItems_congr {e e' : Expr} (h : literal? e = literal? e') (before after : List Expr) :
    literalItems (before ++ e :: after) = literalItems (before ++ e' :: after) := by
  induction before with
  | nil => rw [List.nil_append, List.nil_append, literalItems, literalItems, h]
  | cons b rest ih => rw [List.cons_append, List.cons_append, literalItems, literalItems, ih]

/-- So are entries, into whatever table they are written. -/
theorem literalEntries_congr {entry entry' : Option Expr × Expr} {after : List (Option Expr × Expr)}
    (h : ∀ t, literalEntries t (entry :: after) = literalEntries t (entry' :: after))
    (before : List (Option Expr × Expr)) (t : Table Datum CodeText) :
    literalEntries t (before ++ entry :: after) = literalEntries t (before ++ entry' :: after) := by
  induction before generalizing t with
  | nil => exact h t
  | cons b rest ih =>
      obtain ⟨k, e⟩ := b
      cases k with
      | none => rw [List.cons_append, List.cons_append, literalEntries, literalEntries, ih]
      | some k => simp only [List.cons_append, literalEntries, ih]

theorem literalKeywords_congr {e e' : Expr} (h : literal? e = literal? e') (k : String)
    (before after : List (String × Expr)) (t : Table Datum CodeText) :
    literalKeywords t (before ++ (k, e) :: after) =
      literalKeywords t (before ++ (k, e') :: after) := by
  induction before generalizing t with
  | nil => rw [List.nil_append, List.nil_append, literalKeywords, literalKeywords, h]
  | cons b rest ih => simp only [List.cons_append, literalKeywords, ih]

/-- What differs at an unread place only is read alike. The induction is on how deep the place is. -/
theorem Source.Expr.DiffersUnread.literal?_eq {e e' : Expr} (h : DiffersUnread e e') :
    literal? e = literal? e' := by
  induction h with
  | leftOut h h' => rw [h.literal?_eq, h'.literal?_eq]
  | operand h h' =>
      rw [literal?, literal?, signedNumber?_of_not_isNumber _ h, signedNumber?_of_not_isNumber _ h']
  | part h h' => rw [literal?, literal?, joinedValue_congr h h']
  | item _ ih => rw [literal?, literal?, literalItems_congr ih]
  | @spread s before after e e' =>
      have hentry (t : Table Datum CodeText) : literalEntries t ((none, e) :: after) =
          literalEntries t ((none, e') :: after) := by
        rw [literalEntries, literalEntries]
      rw [literal?, literal?, literalEntries_congr hentry]
  | @keyless s before after k k' e e' h h' =>
      have hentry (t : Table Datum CodeText) : literalEntries t ((some k, e) :: after) =
          literalEntries t ((some k', e') :: after) := by
        rw [literalEntries, literalEntries, keyOf?_of_not_isKey h, keyOf?_of_not_isKey h']
        rfl
      rw [literal?, literal?, literalEntries_congr hentry]
  | @value s before after k e e' _ ih =>
      have hentry (t : Table Datum CodeText) : literalEntries t ((some k, e) :: after) =
          literalEntries t ((some k, e') :: after) := by
        rw [literalEntries, literalEntries, ih]
      rw [literal?, literal?, literalEntries_congr hentry]

theorem literalEntries_eq_of_literal?_eq {s : Span} {entries entries' : List (Option Expr × Expr)}
    (h : literal? (.dict s entries) = literal? (.dict s entries')) :
    literalEntries [] entries = literalEntries [] entries' := by
  rw [literal?, literal?] at h
  rcases hentries : literalEntries [] entries with cause | t <;>
    rcases hentries' : literalEntries [] entries' with cause' | t' <;>
    rw [hentries, hentries'] at h <;> cases h
  · rfl
  · rfl

theorem namedKeywords?_append (before : List (Option String × Expr)) (k : Option String) (e : Expr)
    (after : List (Option String × Expr)) :
    namedKeywords? (before ++ (k, e) :: after) =
      (namedKeywords? before).bind fun front =>
        k.bind fun name => (namedKeywords? after).map fun back => front ++ (name, e) :: back := by
  induction before with
  | nil => cases k <;> cases h : namedKeywords? after <;> simp [namedKeywords?, h]
  | cons b rest ih =>
      obtain ⟨name, b⟩ := b
      cases name with
      | none => rfl
      | some name =>
          rw [List.cons_append, namedKeywords?, ih, namedKeywords?]
          cases namedKeywords? rest <;> cases k <;> cases namedKeywords? after <;> rfl

theorem Source.Expr.PassesUnread.readArguments_eq {e e' : Expr} (h : PassesUnread e e') :
    readArguments e = readArguments e' := by
  cases h with
  | table h =>
      rw [readArguments, readArguments, literalEntries_eq_of_literal?_eq h.literal?_eq]
  | @keyword s f before after k e e' h =>
      rw [readArguments_keywords s f (by simp), readArguments_keywords s f (by simp),
        namedKeywords?_append, namedKeywords?_append]
      cases namedKeywords? before with
      | none => rfl
      | some front =>
          cases k with
          | none => rfl
          | some name =>
              cases namedKeywords? after with
              | none => rfl
              | some back =>
                  change Reading.ofTable (literalKeywords [] (front ++ (name, e) :: back)) =
                    Reading.ofTable (literalKeywords [] (front ++ (name, e') :: back))
                  rw [literalKeywords_congr h.literal?_eq]

/-- A marker does not depend on what stands at an unread place of its arguments. -/
theorem Source.Expr.PassesUnread.ofDecorator?_eq {e e' : Expr} (h : PassesUnread e e')
    (path : String) : Marker.ofDecorator? path e = Marker.ofDecorator? path e' := by
  have hreading := h.readArguments_eq
  have hname : markerName? e = markerName? e' ∧ e.span = e'.span := by
    cases h <;> exact ⟨rfl, rfl⟩
  rw [Marker.ofDecorator?, Marker.ofDecorator?, hreading, hname.1, hname.2]

end Unread

section Markers

variable {path : String}

theorem markerNameOf?_eq (e : Expr) :
    markerNameOf? e = e.lastSegment?.filter vocabulary.contains := by
  cases e <;> rfl

theorem markerName?_eq (e : Expr) :
    markerName? e = e.callee.lastSegment?.filter vocabulary.contains := by
  have hcallee : markerName? e = markerNameOf? e.callee := by
    cases e <;> rfl
  rw [hcallee, markerNameOf?_eq]

/-- The marker that a decorator is: its name, its place, and whether its arguments were read. -/
structure Marker.Describes (path : String) (decorator : Expr) (m : Marker) : Prop where
  name_eq : decorator.callee.lastSegment? = some m.name
  span_eq : m.span = decorator.span
  location_eq : m.location = locationText path decorator.span
  isParseable_iff : m.isParseable = true ↔
    decorator.PassesTable ∧ ∀ n, decorator.PassesReference n → n.HasText

theorem Marker.exists_describes {e : Expr} (path : String) (h : e.isMarker = true) :
    ∃ m, Marker.ofDecorator? path e = some m ∧ m.Describes path e := by
  obtain ⟨name, hname, hmem⟩ :
      ∃ name, e.callee.lastSegment? = some name ∧ vocabulary.contains name = true := by
    rw [Expr.isMarker] at h
    cases hname : e.callee.lastSegment? with
    | none => rw [hname] at h; cases h
    | some name => exact ⟨name, rfl, by rwa [hname] at h⟩
  have hmarker : markerName? e = some name := by
    rw [markerName?_eq, hname, Option.filter_some, if_pos hmem]
  refine ⟨⟨name, e.span, locationText path e.span, readArguments e⟩, ?_, hname, rfl, rfl, ?_⟩
  · rw [Marker.ofDecorator?, hmarker]
    rfl
  · rw [Marker.isParseable_iff, ← exists_readArguments_iff]
    constructor
    · intro h
      exact ⟨_, h⟩
    · rintro ⟨t, ht⟩
      simp only [Marker.metadata, ht]

theorem Marker.ofDecorator?_eq_none {e : Expr} (h : e.isMarker = false) :
    Marker.ofDecorator? path e = none := by
  have hnone : markerName? e = none := by
    rw [markerName?_eq, Option.filter_eq_none_iff]
    intro name hname hmem
    rw [Expr.isMarker, hname, Option.any_some, hmem] at h
    cases h
  rw [Marker.ofDecorator?, hnone]
  rfl

theorem forall₂_describes (decorators : List Expr) :
    List.Forall₂ (Marker.Describes path) (decorators.filter Expr.isMarker)
      (decorators.filterMap (Marker.ofDecorator? path)) := by
  induction decorators with
  | nil => exact .nil
  | cons e rest ih =>
      cases h : e.isMarker with
      | true =>
          obtain ⟨m, hm, hdescribes⟩ := Marker.exists_describes path h
          rw [List.filter_cons_of_pos h, List.filterMap_cons_some hm]
          exact .cons hdescribes ih
      | false =>
          rw [List.filter_cons_of_neg (by simp [h]),
            List.filterMap_cons_none (Marker.ofDecorator?_eq_none h)]
          exact ih

/-- The markers of a declaration are those of its decorators that are markers, in their order. One is
read exactly if it passes a table and every name or attribute that the reading comes to can be
written; what stands anywhere else in its arguments may be replaced without any marker changing. -/
theorem markers_degrade_exactly (path : String) (d : Declaration) :
    List.Forall₂ (Marker.Describes path) (d.decorators.filter Expr.isMarker) (markersOf path d) ∧
    ∀ before e e' after, d.decorators = before ++ e :: after → e.PassesUnread e' →
      markersOf path { d with decorators := before ++ e' :: after } = markersOf path d := by
  refine ⟨forall₂_describes d.decorators, ?_⟩
  intro before e e' after hd h
  rw [markersOf, markersOf, hd, List.filterMap_append, List.filterMap_append, List.filterMap_cons,
    List.filterMap_cons, h.ofDecorator?_eq path]

/-- A marker with a list that holds a call of `f` with the given argument. -/
def calling (argument : Expr) : Expr :=
  .call nowhere (.attribute nowhere (.name nowhere "aabha") "Action")
    [.dict nowhere
      [(some (.constant nowhere (.text "steps")), .sequence nowhere .list
        [.name nowhere "x", .call nowhere (.name nowhere "f") [argument] []])]] []

/-- A marker with one keyword argument. -/
def naming (argument : Expr) : Expr :=
  .call nowhere (.name nowhere "Behavior") [] [(some "name", argument)]

/-- A class with a malformed name twice: where it is not read, and where it is. -/
def twiceMalformed : Declaration :=
  ⟨"C", nowhere, [.name nowhere "dataclass", calling (.malformed nowhere),
    naming (.malformed nowhere)]⟩

theorem markers_degrade_exactly_twiceMalformed :
    (calling (.malformed nowhere)).PassesUnread (calling (.name nowhere "y")) ∧
      markersOf "a.py"
          ⟨"C", nowhere, [.name nowhere "dataclass", calling (.name nowhere "y"),
            naming (.malformed nowhere)]⟩ =
        markersOf "a.py" twiceMalformed ∧
      ∃ read degraded, markersOf "a.py" twiceMalformed = [read, degraded] ∧
        read.Describes "a.py" (calling (.malformed nowhere)) ∧ read.isParseable = true ∧
        degraded.Describes "a.py" (naming (.malformed nowhere)) ∧
        degraded.isParseable = false := by
  obtain ⟨hdescribes, hunread⟩ := markers_degrade_exactly "a.py" twiceMalformed
  have hcall : (Expr.call nowhere (.name nowhere "f") [.malformed nowhere] []).DiffersUnread
      (.call nowhere (.name nowhere "f") [.name nowhere "y"] []) :=
    .leftOut (.call ..) (.call ..)
  have hsteps := @Expr.DiffersUnread.item nowhere .list [.name nowhere "x"] [] _ _ hcall
  have hpasses : (calling (.malformed nowhere)).PassesUnread (calling (.name nowhere "y")) :=
    .table (@Expr.DiffersUnread.value nowhere [] [] _ _ _ hsteps)
  obtain ⟨read, degraded, hmarkers, hread, hdegraded⟩ : ∃ read degraded,
      markersOf "a.py" twiceMalformed = [read, degraded] ∧ read.isParseable = true ∧
        degraded.isParseable = false :=
    ⟨_, _, rfl, rfl, rfl⟩
  have hboth : List.Forall₂ (Marker.Describes "a.py")
      [calling (.malformed nowhere), naming (.malformed nowhere)] [read, degraded] := by
    rw [← hmarkers]
    exact hdescribes
  obtain _ | ⟨hfirst, _ | ⟨hsecond, -⟩⟩ := hboth
  exact ⟨hpasses, hunread [.name nowhere "dataclass"] _ _ _ rfl hpasses, read, degraded, hmarkers,
    hfirst, hread, hsecond, hdegraded⟩

end Markers

end MarkerLint
