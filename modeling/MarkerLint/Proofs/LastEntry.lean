import MarkerLint.Proofs.WrittenFields

/-!
# Keys that are written again

Where a key is written more than once, a program keeps the last entry. Reading keeps the last entry
that is not left out. The two differ exactly if the last entry under a key is left out after one that
is read: then the metadata holds a value that the program has replaced. Values and expressions are
compared along paths through tables and lists, so the statement holds at every depth.
-/

namespace MarkerLint

open Source

/-- A step into a table or a list. -/
inductive Step where
  | key (k : CodeText)
  | item (i : Nat)

namespace Data

/-- What a step into the value comes to. -/
def step? : Datum → Step → Option Datum
  | .table t, .key k => Table.get? k t
  | .list items, .item i => items[i]?
  | _, _ => none

/-- What a path into the value comes to. -/
def at? : Datum → List Step → Option Datum
  | v, [] => some v
  | v, step :: rest => (v.step? step).bind (at? · rest)

theorem at?_append (v : Datum) (p q : List Step) : v.at? (p ++ q) = (v.at? p).bind (at? · q) := by
  induction p generalizing v with
  | nil => rfl
  | cons step rest ih =>
      rw [List.cons_append, at?, at?, Option.bind_assoc]
      exact congrArg _ (funext ih)

end Data

namespace Source.Expr

/-- The expression that a program keeps one step into an expression: the last entry under a key, and
an item among those that are not left out. -/
def kept? : Expr → Step → Option Expr
  | .dict _ entries, .key k => (valuesUnder k entries).getLast?
  | .sequence _ _ items, .item i => (items.filter fun e => e.value?.isSome)[i]?
  | _, _ => none

/-- The expression that a program keeps at the end of a path. -/
def keptAt? : Expr → List Step → Option Expr
  | e, [] => some e
  | e, step :: rest => (e.kept? step).bind (keptAt? · rest)

theorem keptAt?_append (e : Expr) (p q : List Step) :
    e.keptAt? (p ++ q) = (e.keptAt? p).bind (keptAt? · q) := by
  induction p generalizing e with
  | nil => rfl
  | cons step rest ih =>
      rw [List.cons_append, keptAt?, keptAt?, Option.bind_assoc]
      exact congrArg _ (funext ih)

end Source.Expr

/-- What stays of the expressions is stale: the last one is left out, and one before it is read. -/
def IsStale (values : List Expr) : Prop :=
  ∃ earlier last, values = earlier ++ [last] ∧ last.value? = none ∧
    ∃ e ∈ earlier, e.value?.isSome = true

section Stale

variable {values earlier : List Expr} {last : Expr}

theorem isStale_concat_iff : IsStale (earlier ++ [last]) ↔
    last.value? = none ∧ ∃ e ∈ earlier, e.value?.isSome = true := by
  constructor
  · rintro ⟨earlier', last', heq, hlast⟩
    obtain ⟨rfl, hlasts⟩ := List.append_inj' heq rfl
    obtain rfl := List.singleton_inj.mp hlasts
    exact hlast
  · intro hlast
    exact ⟨earlier, last, rfl, hlast⟩

theorem lastRead?_concat : lastRead? (earlier ++ [last]) = last.value?.or (lastRead? earlier) := by
  rw [lastRead?, lastRead?, List.filterMap_append, List.getLast?_append]
  cases h : last.value? with
  | none => rw [List.filterMap_cons_none h]; rfl
  | some v => rw [List.filterMap_cons_some h]; rfl

theorem lastRead?_eq_none_iff :
    lastRead? values = none ↔ ¬ ∃ e ∈ values, e.value?.isSome = true := by
  simp [lastRead?]

/-- The last value that is read is that of the last expression unless what stays is stale. -/
theorem lastRead?_eq_iff :
    lastRead? values = values.getLast?.bind Expr.value? ↔ ¬ IsStale values := by
  rcases List.eq_nil_or_concat' values with rfl | ⟨earlier, last, rfl⟩
  · simp [lastRead?, IsStale]
  · rw [isStale_concat_iff, lastRead?_concat, List.getLast?_concat, Option.bind_some]
    cases last.value? with
    | some v => simp
    | none => simp [lastRead?_eq_none_iff]

end Stale

section Steps

variable {e x : Expr} {v : Datum} {step : Step}

theorem eq_filterMap_of_literalItems {items : List Expr} {values : List Datum}
    (h : literalItems items = .ok values) : values = items.filterMap Expr.value? := by
  induction items generalizing values with
  | nil =>
      rw [literalItems] at h
      cases h
      rfl
  | cons e rest ih =>
      rw [literalItems] at h
      obtain ⟨value, hvalue, h⟩ := bind_eq_ok_iff.mp h
      obtain ⟨others, hothers, h⟩ := bind_eq_ok_iff.mp h
      have hrest := ih hothers
      have he := Expr.value?_of_literal? hvalue
      cases value with
      | none =>
          cases h
          rw [List.filterMap_cons_none he, hrest]
      | some w =>
          cases h
          rw [List.filterMap_cons_some he, hrest]

theorem getElem?_filterMap_value? (items : List Expr) (i : Nat) :
    (items.filterMap Expr.value?)[i]? =
      ((items.filter fun e => e.value?.isSome)[i]?).bind Expr.value? := by
  induction items generalizing i with
  | nil => simp
  | cons e rest ih =>
      cases h : e.value? with
      | none => rw [List.filterMap_cons_none h, List.filter_cons_of_neg (by simp [h]), ih]
      | some v =>
          rw [List.filterMap_cons_some h, List.filter_cons_of_pos (by simp [h])]
          cases i with
          | zero => simp [h]
          | succ i => exact ih i

theorem eq_table_of_literal?_dict {s : Span} {entries : List (Option Expr × Expr)}
    (h : literal? (.dict s entries) = .ok (some v)) :
    ∃ t, v = .table t ∧ literalEntries [] entries = .ok t := by
  rw [literal?] at h
  obtain ⟨t, ht, h⟩ := bind_eq_ok_iff.mp h
  cases h
  exact ⟨t, rfl, ht⟩

/-- A table that is read has under a key the value of the last entry unless that is stale. -/
theorem get?_eq_iff {entries : List (Option Expr × Expr)} {t : Table Datum CodeText}
    (h : literalEntries [] entries = .ok t) (k : CodeText) :
    t.get? k = (valuesUnder k entries).getLast?.bind Expr.value? ↔
      ¬ IsStale (valuesUnder k entries) := by
  rw [← lastRead?_eq_iff, get?_literalEntries h k]
  exact Eq.congr_left Option.or_none

theorem isNumber_of_signedNumber? {op : String} {operand : Expr}
    (h : signedNumber? op operand = some v) : (∃ i, v = .integer i) ∨ ∃ x, v = .float x := by
  rw [signedNumber?.eq_def] at h
  grind

/-- One step into what an expression is read as comes to the value of what a program keeps there, if
no key of a table is stale. -/
theorem step?_eq : ∀ {e : Expr} {v : Datum}, literal? e = .ok (some v) →
    (∀ s entries k, e = .dict s entries → ¬ IsStale (valuesUnder k entries)) → ∀ step,
      v.step? step = (e.kept? step).bind Expr.value?
  | .dict s entries, v, h, hfresh, step => by
      obtain ⟨t, rfl, ht⟩ := eq_table_of_literal?_dict h
      cases step with
      | key k => exact (get?_eq_iff ht k).mpr (hfresh s entries k rfl)
      | item i => rfl
  | .sequence s kind items, v, h, _, step => by
      rw [literal?] at h
      obtain ⟨values, hvalues, h⟩ := bind_eq_ok_iff.mp h
      cases h
      cases step with
      | key k => rfl
      | item i =>
          rw [Data.step?, eq_filterMap_of_literalItems hvalues, getElem?_filterMap_value?]
          rfl
  | .constant s c, v, h, _, step => by
      rw [literal?] at h
      cases c <;> cases h <;> cases step <;> rfl
  | .unary s op operand, v, h, _, step => by
      rw [literal?, Except.ok.injEq] at h
      obtain ⟨i, rfl⟩ | ⟨x, rfl⟩ := isNumber_of_signedNumber? h <;> cases step <;> rfl
  | .name s id, v, h, _, step => by
      rw [literal?] at h
      cases h
      cases step <;> rfl
  | .attribute s base attr, v, h, _, step => by
      rw [literal?] at h
      obtain ⟨text, -, h⟩ := map_eq_ok_iff.mp h
      cases h
      cases step <;> rfl
  | .joined s parts, v, h, _, step => by
      rw [literal?] at h
      cases h
      cases step <;> rfl
  | .malformed _, _, h, _, _ => by rw [literal?] at h; cases h
  | .call .., _, h, _, _ => by rw [literal?] at h; cases h
  | .embedded .., _, h, _, _ => by rw [literal?] at h; cases h
  | .subscript .., _, h, _, _ => by rw [literal?] at h; cases h
  | .starred .., _, h, _, _ => by rw [literal?] at h; cases h
  | .computed .., _, h, _, _ => by rw [literal?] at h; cases h

/-- What a program keeps of an expression that is read is read or left out. -/
theorem exists_literal?_of_kept? {value : Option Datum} (h : literal? e = .ok value)
    (hx : e.kept? step = some x) : ∃ value', literal? x = .ok value' := by
  rw [Expr.kept?.eq_def] at hx
  split at hx
  · next s entries k =>
      obtain ⟨t, ht⟩ := exists_literal?_dict_iff.mp ⟨value, h⟩
      exact exists_literal?_of_mem_valuesUnder ht (List.mem_of_getLast? hx)
  · next s kind items i =>
      have hitems := exists_literal?_sequence_iff.mp ⟨value, h⟩
      exact exists_literalItems_iff.mp hitems x (List.mem_of_mem_filter (List.mem_of_getElem? hx))
  · cases hx

theorem kept?_eq_none_of_leftOut (h : literal? e = .ok none) : e.kept? step = none := by
  rw [Expr.kept?.eq_def]
  split
  · rw [literal?] at h
    obtain ⟨t, -, h⟩ := bind_eq_ok_iff.mp h
    cases h
  · rw [literal?] at h
    obtain ⟨values, -, h⟩ := bind_eq_ok_iff.mp h
    cases h
  · rfl

end Steps

section Paths

variable {e x : Expr} {v : Datum}

theorem exists_literal?_of_keptAt? {path : List Step} {value : Option Datum}
    (h : literal? e = .ok value) (hx : e.keptAt? path = some x) :
    ∃ value', literal? x = .ok value' := by
  induction path generalizing e value with
  | nil =>
      cases hx
      exact ⟨value, h⟩
  | cons step rest ih =>
      obtain ⟨y, hy, hx⟩ := Option.bind_eq_some_iff.mp hx
      obtain ⟨value', hvalue⟩ := exists_literal?_of_kept? h hy
      exact ih hvalue hx

/-- Of an expression that is left out nothing is kept that has a value. -/
theorem keptAt?_bind_of_leftOut (h : literal? e = .ok none) (path : List Step) :
    (e.keptAt? path).bind Expr.value? = none := by
  cases path with
  | nil => exact Expr.value?_of_literal? h
  | cons step rest => rw [Expr.keptAt?, kept?_eq_none_of_leftOut h]; rfl

/-- No key is stale in a table that a program keeps of the expression, at any depth. -/
def IsFresh (e : Expr) : Prop :=
  ∀ path s entries k, e.keptAt? path = some (.dict s entries) →
    ¬ IsStale (valuesUnder k entries)

theorem IsFresh.of_kept? {step : Step} (h : IsFresh e) (hx : e.kept? step = some x) : IsFresh x := by
  intro path s entries k hpath
  apply h (step :: path) s entries k
  rw [Expr.keptAt?, hx, Option.bind_some, hpath]

/-- Without stale keys every path into what an expression is read as comes to the value of what a
program keeps there. The induction is on the path. -/
theorem IsFresh.at?_eq (hfresh : IsFresh e) (h : literal? e = .ok (some v)) (path : List Step) :
    v.at? path = (e.keptAt? path).bind Expr.value? := by
  induction path generalizing e v with
  | nil => exact (Expr.value?_of_literal? h).symm
  | cons step rest ih =>
      have hstep := step?_eq h (fun s entries k he => hfresh [] s entries k (congrArg some he)) step
      rw [Data.at?, Expr.keptAt?, hstep]
      cases hx : e.kept? step with
      | none => rfl
      | some x =>
          rw [Option.bind_some, Option.bind_some]
          obtain ⟨value, hvalue⟩ := exists_literal?_of_kept? h hx
          rw [Expr.value?_of_literal? hvalue]
          cases value with
          | none => exact (keptAt?_bind_of_leftOut hvalue rest).symm
          | some w => exact ih (hfresh.of_kept? hx) hvalue

/-- A path that ends in a stale key comes to a value that a program does not keep. -/
theorem isFresh_of_at?_eq (h : literal? e = .ok (some v))
    (hpaths : ∀ path, v.at? path = (e.keptAt? path).bind Expr.value?) : IsFresh e := by
  intro path s entries k hpath
  obtain ⟨value, hvalue⟩ := exists_literal?_of_keptAt? h hpath
  obtain ⟨t, ht⟩ := exists_literal?_dict_iff.mp ⟨value, hvalue⟩
  have htable : v.at? path = some (.table t) := by
    rw [hpaths, hpath, Option.bind_some]
    exact Expr.value?_of_literal? (by rw [literal?, ht]; rfl)
  have hkey := hpaths (path ++ [.key k])
  rw [Data.at?_append, htable, Expr.keptAt?_append, hpath] at hkey
  apply (get?_eq_iff ht k).mp
  simpa [Data.at?, Data.step?, Expr.keptAt?, Expr.kept?] using hkey

/-- A table that is read has under a key what the last entry under it is read as, exactly if that key
is not stale. It agrees with what a program keeps along every path, exactly if no key of a table that
is kept is stale, at any depth. -/
theorem reading_keeps_last_iff {s : Span} {entries : List (Option Expr × Expr)}
    {t : Table Datum CodeText} (h : literal? (.dict s entries) = .ok (some (.table t))) :
    (∀ k, t.get? k = (valuesUnder k entries).getLast?.bind Expr.value? ↔
      ¬ IsStale (valuesUnder k entries)) ∧
    ((∀ path, (Data.table t).at? path = ((Expr.dict s entries).keptAt? path).bind Expr.value?) ↔
      IsFresh (.dict s entries)) := by
  constructor
  · obtain ⟨t', ht', hentries⟩ := eq_table_of_literal?_dict h
    obtain rfl := Data.table.inj ht'
    exact get?_eq_iff hentries
  · exact ⟨isFresh_of_at?_eq h, fun hfresh => hfresh.at?_eq h⟩

/-- Entries with a key that is written again as a call, and one that is written again as a number. -/
def rewrittenEntries : List (Option Expr × Expr) :=
  [(some (.constant nowhere (.text "stale")), .constant nowhere (.integer 1)),
   (some (.constant nowhere (.text "fresh")), .call nowhere (.name nowhere "f") [] []),
   (some (.constant nowhere (.text "stale")), .call nowhere (.name nowhere "f") [] []),
   (some (.constant nowhere (.text "fresh")), .constant nowhere (.integer 2))]

/-- A table that holds the table of these entries. -/
def nestedRewritten : List (Option Expr × Expr) :=
  [(some (.constant nowhere (.text "outer")), .dict nowhere rewrittenEntries)]

/-- What that table is read as. -/
def nestedReading : Table Datum CodeText :=
  [("outer", .table [("stale", .integer 1), ("fresh", .integer 2)])]

theorem isStale_rewrittenEntries : IsStale (valuesUnder "stale" rewrittenEntries) :=
  ⟨[.constant nowhere (.integer 1)], .call nowhere (.name nowhere "f") [] [], rfl, rfl, _,
    List.mem_cons_self, rfl⟩

theorem reading_keeps_last_iff_nestedRewritten :
    literal? (.dict nowhere nestedRewritten) = .ok (some (.table nestedReading)) ∧
      ¬ IsStale (valuesUnder "outer" nestedRewritten) ∧
      ¬ ∀ path, (Data.table nestedReading).at? path =
        ((Expr.dict nowhere nestedRewritten).keptAt? path).bind Expr.value? := by
  have hread : literal? (.dict nowhere nestedRewritten) = .ok (some (.table nestedReading)) := rfl
  obtain ⟨hkey, hpaths⟩ := reading_keeps_last_iff hread
  refine ⟨hread, (hkey "outer").mp rfl, ?_⟩
  intro hagree
  have hfresh := hpaths.mp hagree
  exact hfresh [.key "outer"] nowhere rewrittenEntries "stale" rfl isStale_rewrittenEntries

/-- Where a call replaces a number, the number is read. -/
theorem replaced_number_is_read :
    let entries : List (Option Expr × Expr) :=
      [(some (.constant nowhere (.text "a")), .constant nowhere (.integer 1)),
       (some (.constant nowhere (.text "a")), .call nowhere (.name nowhere "f") [] [])]
    ∃ t : Table Datum CodeText, literal? (.dict nowhere entries) = .ok (some (.table t)) ∧
      t.get? ("a" : CodeText) = some (.integer 1) ∧
      ∃ last, (valuesUnder "a" entries).getLast? = some last ∧ literal? last = .ok none :=
  ⟨[("a", .integer 1)], rfl, rfl, _, rfl, rfl⟩

end Paths

end MarkerLint
