import MarkerLint.Marker

/-!
# Values and their literals

Every value can be written as a literal, and a literal is read back as the value that it was written
for. Reading any expression at all gives a value whose tables have distinct keys at every depth, so
writing it as a literal and reading that again changes nothing. What an expression leaves out leaves
no trace in a value: `Datum` has no place for it.
-/

namespace MarkerLint

open Source

namespace Data

/-- The tables of a value have distinct keys, at every depth. -/
inductive IsKeyed : Datum → Prop
  | null : IsKeyed .null
  | boolean (b : Bool) : IsKeyed (.boolean b)
  | text (s : CodeText) : IsKeyed (.text s)
  | integer (i : Int) : IsKeyed (.integer i)
  | float (x : Binary64) : IsKeyed (.float x)
  | list {items : List Datum} (each : ∀ v ∈ items, IsKeyed v) : IsKeyed (.list items)
  | table {entries : Table Datum CodeText} (distinct : entries.keys.Nodup)
      (each : ∀ e ∈ entries, IsKeyed e.2) : IsKeyed (.table entries)

/-- The literal of an integer: a negative one is written with a sign before it. -/
def integerLiteral (s : Span) (i : Int) : Expr :=
  if i < 0 then .unary s "-" (.constant s (.integer i.natAbs)) else .constant s (.integer i)

mutual

/-- The literal of a value, all parts of which stand at one place. -/
def literal (s : Span) : Datum → Expr
  | .null => .constant s .null
  | .boolean b => .constant s (.boolean b)
  | .text t => .constant s (.text t)
  | .integer i => integerLiteral s i
  | .float x => .constant s (.float x)
  | .moment m => nomatch m
  | .list items => .sequence s .list (itemLiterals s items)
  | .table entries => .dict s (entryLiterals s entries)

/-- The literals of the items of a list, in order. -/
def itemLiterals (s : Span) : List Datum → List Expr
  | [] => []
  | v :: rest => literal s v :: itemLiterals s rest

/-- The literals of the entries of a table, in order: each key is a text. -/
def entryLiterals (s : Span) : List (CodeText × Datum) → List (Option Expr × Expr)
  | [] => []
  | (k, v) :: rest => (some (.constant s (.text k)), literal s v) :: entryLiterals s rest

end

theorem literal?_integerLiteral (s : Span) (i : Int) :
    literal? (integerLiteral s i) = .ok (some (.integer i)) := by
  rw [integerLiteral]
  split
  · next hneg =>
      have hi : -(i.natAbs : Int) = i := by omega
      rw [literal?, signedNumber?, if_pos rfl, hi]
  · simp [literal?, Constant.value?]

/-- Literals that are read back one by one are read back as a list. -/
theorem literalItems_itemLiterals (s : Span) {items : List Datum}
    (h : ∀ v ∈ items, literal? (v.literal s) = .ok (some v)) :
    literalItems (itemLiterals s items) = .ok items := by
  induction items with
  | nil => simp [itemLiterals, literalItems]
  | cons v rest ih =>
      have hv := h v List.mem_cons_self
      have hrest := ih fun w hw => h w (List.mem_cons_of_mem _ hw)
      rw [itemLiterals, literalItems, hv, hrest]
      rfl

/-- Entries whose values are read back go to the end of the table that is being written, if their
keys are new there and distinct. -/
theorem literalEntries_entryLiterals (s : Span) {entries t : Table Datum CodeText}
    (hn : (t.keys ++ entries.keys).Nodup)
    (h : ∀ e ∈ entries, literal? (e.2.literal s) = .ok (some e.2)) :
    literalEntries t (entryLiterals s entries) = .ok (t ++ entries) := by
  induction entries generalizing t with
  | nil => simp [entryLiterals, literalEntries]
  | cons e rest ih =>
      obtain ⟨k, v⟩ := e
      have hv : literal? (v.literal s) = .ok (some v) := h (k, v) List.mem_cons_self
      have hk : k ∉ t.keys := by
        intro hk
        exact (List.nodup_append.mp hn).2.2 k hk k (by simp [Table.keys]) rfl
      have hkeys : ((t.insert k v).keys ++ Table.keys rest).Nodup := by
        rw [Table.keys_insert, if_neg hk]
        simpa [Table.keys] using hn
      have hrest := ih hkeys fun e he => h e (List.mem_cons_of_mem _ he)
      rw [entryLiterals, literalEntries]
      simp only [keyOf?, hv, ok_bind]
      rw [hrest, Table.insert_of_notMem hk, List.append_assoc, List.singleton_append]

/-- A literal is read as the value that it was written for. The induction follows the evidence that
keys are distinct, which holds the same evidence for every part. -/
theorem IsKeyed.literal?_literal {v : Datum} (h : v.IsKeyed) (s : Span) :
    literal? (v.literal s) = .ok (some v) := by
  induction h with
  | null => simp [literal, literal?, Constant.value?]
  | boolean b => simp [literal, literal?, Constant.value?]
  | text t => simp [literal, literal?, Constant.value?]
  | integer i => exact literal?_integerLiteral s i
  | float x => simp [literal, literal?, Constant.value?]
  | list _ ih =>
      rw [literal, literal?, literalItems_itemLiterals s ih]
      rfl
  | table hn _ ih =>
      have hentries := literalEntries_entryLiterals s (t := []) (by simpa [Table.keys] using hn) ih
      rw [literal, literal?, hentries]
      rfl

/-- Writing an entry into a table keeps the keys distinct, at every depth. -/
theorem IsKeyed.insert {t : Table Datum CodeText} (h : (Data.table t).IsKeyed) {v : Datum}
    (hv : v.IsKeyed) (k : CodeText) : (Data.table (t.insert k v)).IsKeyed := by
  cases h with
  | table hn each =>
      apply IsKeyed.table (Table.nodup_keys_insert hn k v)
      intro e he
      rcases Table.mem_insert he with rfl | he
      · exact hv
      · exact each e he

theorem isKeyed_nil : (Data.table []).IsKeyed :=
  .table List.nodup_nil (by simp)

theorem isKeyed_of_value? {c : Constant} {v : Datum} (h : c.value? = some v) : v.IsKeyed := by
  cases c with
  | null => cases h; exact .null
  | boolean b => cases h; exact .boolean b
  | text s => cases h; exact .text s
  | integer i => cases h; exact .integer i
  | float x => cases h; exact .float x
  | imaginary x => cases h
  | bytes b => cases h
  | ellipsis => cases h

theorem isKeyed_of_signedNumber? {op : String} {operand : Expr} {v : Datum}
    (h : signedNumber? op operand = some v) : v.IsKeyed := by
  rw [signedNumber?.eq_def] at h
  split at h
  · next i =>
      split at h
      · cases h; exact .integer (-i)
      · split at h
        · cases h; exact .integer i
        · cases h
  · next x =>
      split at h
      · cases h; exact .float x.neg
      · split at h
        · cases h; exact .float x
        · cases h
  · cases h

end Data

section Reading

open Data

mutual

/-- What an expression is read as has distinct keys at every depth. There is one case for each form
of expression; those that are left out have no value. -/
theorem isKeyed_of_literal? : ∀ {e : Expr} {v : Datum}, literal? e = .ok (some v) → v.IsKeyed
  | .constant _ _, _, h => by
      rw [literal?, Except.ok.injEq] at h
      exact isKeyed_of_value? h
  | .unary _ _ _, _, h => by
      rw [literal?, Except.ok.injEq] at h
      exact isKeyed_of_signedNumber? h
  | .sequence _ _ items, _, h => by
      rw [literal?] at h
      obtain ⟨values, hvalues, h⟩ := bind_eq_ok_iff.mp h
      cases h
      exact .list (areKeyed_of_literalItems hvalues)
  | .dict _ entries, _, h => by
      rw [literal?] at h
      obtain ⟨t, ht, h⟩ := bind_eq_ok_iff.mp h
      cases h
      exact isKeyed_of_literalEntries ht isKeyed_nil
  | .name _ id, _, h => by
      rw [literal?] at h
      cases h
      exact .text id
  | .attribute _ _ _, _, h => by
      rw [literal?] at h
      obtain ⟨text, -, h⟩ := map_eq_ok_iff.mp h
      cases h
      exact .text text
  | .joined _ _, _, h => by
      rw [literal?] at h
      cases h
      exact .text _
  | .malformed _, _, h => by rw [literal?] at h; cases h
  | .call .., _, h => by rw [literal?] at h; cases h
  | .embedded .., _, h => by rw [literal?] at h; cases h
  | .subscript .., _, h => by rw [literal?] at h; cases h
  | .starred .., _, h => by rw [literal?] at h; cases h
  | .computed .., _, h => by rw [literal?] at h; cases h

/-- So has every item that is read. -/
theorem areKeyed_of_literalItems : ∀ {es : List Expr} {vs : List Datum},
    literalItems es = .ok vs → ∀ v ∈ vs, v.IsKeyed
  | [], _, h => by
      rw [literalItems] at h
      cases h
      simp
  | e :: rest, _, h => by
      rw [literalItems] at h
      obtain ⟨value, hvalue, h⟩ := bind_eq_ok_iff.mp h
      obtain ⟨values, hvalues, h⟩ := bind_eq_ok_iff.mp h
      have hrest := areKeyed_of_literalItems hvalues
      cases value with
      | none =>
          cases h
          exact hrest
      | some v =>
          cases h
          exact List.forall_mem_cons.mpr ⟨isKeyed_of_literal? hvalue, hrest⟩

/-- So has a table into which entries are read, if it had before. -/
theorem isKeyed_of_literalEntries : ∀ {entries : List (Option Expr × Expr)}
    {t t' : Table Datum CodeText}, literalEntries t entries = .ok t' → (Data.table t).IsKeyed → (Data.table t').IsKeyed
  | [], _, _, h, ht => by
      rw [literalEntries] at h
      cases h
      exact ht
  | (none, _) :: rest, _, _, h, ht => by
      rw [literalEntries] at h
      exact isKeyed_of_literalEntries h ht
  | (some key, e) :: rest, _, _, h, ht => by
      rw [literalEntries] at h
      obtain ⟨k, -, h⟩ := bind_eq_ok_iff.mp h
      cases k with
      | none => exact isKeyed_of_literalEntries h ht
      | some k =>
          obtain ⟨value, hvalue, h⟩ := bind_eq_ok_iff.mp h
          cases value with
          | none => exact isKeyed_of_literalEntries h ht
          | some v => exact isKeyed_of_literalEntries h (ht.insert (isKeyed_of_literal? hvalue) k)

end

theorem isKeyed_of_literalKeywords {keywords : List (String × Expr)} {t t' : Table Datum CodeText}
    (h : literalKeywords t keywords = .ok t') (ht : (Data.table t).IsKeyed) :
    (Data.table t').IsKeyed := by
  induction keywords generalizing t with
  | nil =>
      cases h
      exact ht
  | cons e rest ih =>
      obtain ⟨value, hvalue, h⟩ := bind_eq_ok_iff.mp h
      cases value with
      | none => exact ih h ht
      | some v => exact ih h (ht.insert (isKeyed_of_literal? hvalue) e.1)

theorem Reading.ofTable_eq_metadata_iff {answer : Except Unwritable (Table Datum CodeText)}
    {t : Table Datum CodeText} : Reading.ofTable answer = .metadata t ↔ answer = .ok t := by
  cases answer <;> simp [Reading.ofTable]

/-- The metadata of a marker has distinct keys at every depth. -/
theorem isKeyed_of_readArguments {decorator : Expr} {t : Table Datum CodeText}
    (h : readArguments decorator = .metadata t) : (Data.table t).IsKeyed := by
  rw [readArguments.eq_def] at h
  split at h
  · exact isKeyed_of_literalEntries (Reading.ofTable_eq_metadata_iff.mp h) isKeyed_nil
  · split at h
    · exact isKeyed_of_literalKeywords (Reading.ofTable_eq_metadata_iff.mp h) isKeyed_nil
    · cases h
  · cases h

end Reading

namespace Marker

/-- The decorator that writes a marker anew: its name, called with its metadata as a literal. -/
def decorator (s : Span) (m : Marker) : Expr :=
  .call s (.name s m.name) [(Data.table m.metadata).literal s] []

theorem isParseable_iff {m : Marker} : m.isParseable = true ↔ m.reading = .metadata m.metadata := by
  cases h : m.reading <;> simp [isParseable, metadata, h]

/-- The name of a marker is in the vocabulary. -/
theorem name_mem_vocabulary {path : String} {d : Expr} {m : Marker}
    (h : Marker.ofDecorator? path d = some m) : m.name ∈ vocabulary := by
  obtain ⟨name, hname, rfl⟩ := Option.map_eq_some_iff.mp h
  have hof {e : Expr} (he : markerNameOf? e = some name) : name ∈ vocabulary := by
    rw [markerNameOf?.eq_def] at he
    split at he
    · split at he
      · next hid => cases he; exact List.contains_iff_mem.mp hid
      · cases he
    · split at he
      · next hattr => cases he; exact List.contains_iff_mem.mp hattr
      · cases he
    · cases he
  rw [markerName?.eq_def] at hname
  split at hname
  · exact hof hname
  · exact hof hname

/-- A marker that was read is read again, with the same metadata, from the decorator that writes it
anew. -/
theorem exists_ofDecorator?_decorator {path : String} {d : Expr} {m : Marker}
    (h : Marker.ofDecorator? path d = some m) (hm : (Data.table m.metadata).IsKeyed) (s : Span) :
    ∃ m', Marker.ofDecorator? path (m.decorator s) = some m' ∧ m'.name = m.name ∧
      m'.isParseable = true ∧ m'.metadata = m.metadata := by
  have hname : markerName? (m.decorator s) = some m.name := by
    have hmem := List.contains_iff_mem.mpr (name_mem_vocabulary h)
    rw [decorator, markerName?, markerNameOf?, if_pos hmem]
  have hentries : literalEntries [] (Data.entryLiterals s m.metadata) = .ok m.metadata := by
    have hread := hm.literal?_literal s
    rw [Data.literal, literal?] at hread
    obtain ⟨t, ht, h⟩ := bind_eq_ok_iff.mp hread
    cases h
    exact ht
  have hreading : readArguments (m.decorator s) = .metadata m.metadata := by
    rw [decorator, Data.literal, readArguments, hentries]
    rfl
  refine ⟨⟨m.name, s, locationText path s, .metadata m.metadata⟩, ?_, rfl, rfl, rfl⟩
  rw [ofDecorator?, hname, hreading]
  rfl

end Marker

/-- A literal is read back as its value; whatever an expression or the arguments of a marker are read
as is the value of its own literal. -/
theorem literals_read_back (s : Span) :
    (∀ v : Datum, v.IsKeyed → literal? (v.literal s) = .ok (some v)) ∧
    (∀ e v, literal? e = .ok (some v) → v.IsKeyed ∧ literal? (v.literal s) = .ok (some v)) ∧
    ∀ path d m, Marker.ofDecorator? path d = some m → m.isParseable = true →
      (Data.table m.metadata).IsKeyed ∧
        ∃ m', Marker.ofDecorator? path (m.decorator s) = some m' ∧ m'.name = m.name ∧
          m'.isParseable = true ∧ m'.metadata = m.metadata := by
  refine ⟨fun v hv => hv.literal?_literal s, ?_, ?_⟩
  · intro e v h
    have hv := isKeyed_of_literal? h
    exact ⟨hv, hv.literal?_literal s⟩
  · intro path d m hm hparseable
    obtain ⟨name, -, rfl⟩ := Option.map_eq_some_iff.mp hm
    have hkeyed := isKeyed_of_readArguments (Marker.isParseable_iff.mp hparseable)
    exact ⟨hkeyed, Marker.exists_ofDecorator?_decorator hm hkeyed s⟩

/-- The place of a node without positions. -/
def nowhere : Span := ⟨none, none, none, none⟩

/-- A table with a key that is written twice, and with a list of which one item is left out. -/
def untidyTable : Expr :=
  .dict nowhere
    [(some (.constant nowhere (.text "name")), .constant nowhere (.text "first")),
     (some (.name nowhere "steps"), .sequence nowhere .tuple
        [.unary nowhere "-" (.constant nowhere (.integer 7)), .call nowhere (.name nowhere "f") [] [],
         .name nowhere "x"]),
     (none, .name nowhere "others"),
     (some (.constant nowhere (.text "name")), .constant nowhere .null)]

/-- What that table is read as. -/
def tidyValue : Datum :=
  .table [("name", .null), ("steps", .list [.integer (-7), .text "x"])]

/-- A decorator with that table. -/
def untidyDecorator : Expr :=
  .call nowhere (.name nowhere "Action") [untidyTable] []

theorem literals_read_back_untidyTable :
    literal? untidyTable = .ok (some tidyValue) ∧ tidyValue.IsKeyed ∧
      literal? (tidyValue.literal nowhere) = .ok (some tidyValue) ∧
      ∃ m m', Marker.ofDecorator? "a.py" untidyDecorator = some m ∧ m.isParseable = true ∧
        Marker.ofDecorator? "a.py" (m.decorator nowhere) = some m' ∧ m'.isParseable = true ∧
        m'.metadata = m.metadata := by
  have hread : literal? untidyTable = .ok (some tidyValue) := rfl
  obtain ⟨m, hm, hparseable⟩ :
      ∃ m, Marker.ofDecorator? "a.py" untidyDecorator = some m ∧ m.isParseable = true :=
    ⟨_, rfl, rfl⟩
  obtain ⟨hliteral, hvalue, hmarker⟩ := literals_read_back nowhere
  have hkeyed := (hvalue untidyTable tidyValue hread).1
  obtain ⟨-, m', hm', -, hparseable', hmetadata⟩ := hmarker "a.py" untidyDecorator m hm hparseable
  exact ⟨hread, hkeyed, hliteral tidyValue hkeyed, m, m', hm, hparseable, hm', hparseable', hmetadata⟩

end MarkerLint
