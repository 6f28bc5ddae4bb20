import Mathlib.Data.List.Forall2
import MarkerLint.Summary

/-!
# Rows of the summary

What the row of a code holds after any messages: the total counts every message once, and one from
a directory that has the name of the total twice; the symbol is that of the last message, unless
this comes from a directory that has the name of the symbol, where it gives way to a number.
-/

namespace MarkerLint.Summary

/-- The number of messages from a directory. -/
def inDirectory (directory : String) (messages : List Message) : Nat :=
  messages.countP fun m => markerDirectory m.path = directory

/-- The messages with a code. -/
def ofCode (code : String) (messages : List Message) : List Message :=
  messages.filter fun m => m.code = code

/-- Messages from a directory with the name of the symbol have numbers for symbols. -/
def IsReadable (messages : List Message) : Prop :=
  ∀ m ∈ messages, markerDirectory m.path = symbolKey → ∃ n, Decimal.read m.symbol = .ok n

/-- What a message leaves under the key of the symbol. -/
def symbolCell (m : Message) : Cell :=
  if markerDirectory m.path = symbolKey then
    match Decimal.read m.symbol with
    | .ok n => .count (n + 1)
    | .error _ => .symbol m.symbol
  else .symbol m.symbol

/-- The row of a code after the messages with that code. -/
structure IsRowOf (messages : List Message) (row : Row) : Prop where
  total : countOf (row.get? totalKey) =
    .ok (messages.length + inDirectory totalKey messages : Nat)
  symbol : row.get? symbolKey = messages.getLast?.map symbolCell
  count : ∀ d, d ≠ totalKey → d ≠ symbolKey → countOf (row.get? d) = .ok (inDirectory d messages)

theorem symbolKey_ne_totalKey : symbolKey ≠ totalKey := by decide

theorem increment_eq {key : String} {row : Row} {n : Int} (h : countOf (row.get? key) = .ok n) :
    increment key row = .ok (row.insert key (.count (n + 1))) := by
  rw [increment, h]
  rfl

theorem inDirectory_concat (d : String) (messages : List Message) (m : Message) :
    inDirectory d (messages ++ [m]) =
      inDirectory d messages + if markerDirectory m.path = d then 1 else 0 := by
  simp [inDirectory, List.countP_append, List.countP_cons]

theorem isRowOf_nil : IsRowOf [] [] where
  total := rfl
  symbol := rfl
  count := fun _ _ _ => rfl

section Step

variable {messages : List Message} {row : Row} {m : Message}

/-- The count under the directory of a message when its symbol has been written. -/
theorem IsRowOf.exists_countOf (h : IsRowOf messages row) (hm : IsReadable [m]) :
    ∃ n, countOf ((row.insert symbolKey (.symbol m.symbol)).get? (markerDirectory m.path)) = .ok n ∧
      (markerDirectory m.path = symbolKey → Decimal.read m.symbol = .ok n) ∧
      (markerDirectory m.path ≠ symbolKey →
        countOf (row.get? (markerDirectory m.path)) = .ok n) := by
  by_cases hs : markerDirectory m.path = symbolKey
  · obtain ⟨n, hn⟩ := hm m List.mem_cons_self hs
    refine ⟨n, ?_, fun _ => hn, fun hne => absurd hs hne⟩
    rw [hs, Table.get?_insert_self]
    exact hn
  · rw [Table.get?_insert_of_ne hs]
    by_cases ht : markerDirectory m.path = totalKey
    · exact ⟨_, ht ▸ h.total, fun he => absurd he hs, fun _ => ht ▸ h.total⟩
    · exact ⟨_, h.count _ ht hs, fun he => absurd he hs, fun _ => h.count _ ht hs⟩

/-- One more message changes the row of its code as it changes the numbers. -/
theorem IsRowOf.addToRow (h : IsRowOf messages row) (hm : IsReadable [m]) :
    ∃ row', addToRow row m = .ok row' ∧ IsRowOf (messages ++ [m]) row' := by
  obtain ⟨n, hn, hread, hcount⟩ := h.exists_countOf hm
  have hne : totalKey ≠ symbolKey := symbolKey_ne_totalKey.symm
  let row₁ := (row.insert symbolKey (.symbol m.symbol)).insert (markerDirectory m.path)
    (.count (n + 1))
  obtain ⟨t, ht⟩ : ∃ t, t = messages.length +
      (inDirectory totalKey messages + if markerDirectory m.path = totalKey then 1 else 0) := ⟨_, rfl⟩
  have htotal : countOf (row₁.get? totalKey) = .ok (t : Nat) := by
    rw [ht]
    by_cases ht : markerDirectory m.path = totalKey
    · have hsum := h.total
      rw [← ht, hcount (ht ▸ hne)] at hsum
      simp only [row₁, ht, Table.get?_insert_self, countOf, if_true]
      rw [Except.ok.inj hsum, ht]
      push_cast
      rw [Int.add_assoc]
    · simp only [row₁, Table.get?_insert_of_ne (Ne.symm ht), Table.get?_insert_of_ne hne, h.total,
        if_neg ht, Nat.add_zero]
  have hrow : Summary.addToRow row m = .ok (row₁.insert totalKey (.count (t + 1))) := by
    rw [Summary.addToRow, increment_eq hn, ok_bind, increment_eq htotal]
  refine ⟨_, hrow, ?_, ?_, ?_⟩
  · rw [Table.get?_insert_self, inDirectory_concat, List.length_append]
    simp only [countOf, List.length_singleton]
    exact congrArg Except.ok (by omega)
  · rw [Table.get?_insert_of_ne symbolKey_ne_totalKey, List.getLast?_concat, Option.map_some]
    by_cases hs : markerDirectory m.path = symbolKey
    · simp only [row₁, hs, Table.get?_insert_self, symbolCell, if_true, hread hs]
    · simp only [row₁, Table.get?_insert_of_ne (Ne.symm hs), Table.get?_insert_self, symbolCell,
        if_neg hs]
  · intro d hdt hds
    rw [Table.get?_insert_of_ne hdt, inDirectory_concat]
    by_cases hd : markerDirectory m.path = d
    · have hold := h.count d hdt hds
      rw [← hd, hcount (hd ▸ hds)] at hold
      simp only [row₁, ← hd, Table.get?_insert_self, countOf, if_true]
      rw [Except.ok.inj hold]
      rfl
    · simp only [row₁, Table.get?_insert_of_ne (Ne.symm hd), Table.get?_insert_of_ne hds,
        h.count d hdt hds, if_neg hd, Nat.add_zero]

end Step

/-- The rows after messages: one for each code. -/
structure IsTableOf (messages : List Message) (rows : Table Row) : Prop where
  keys_nodup : rows.keys.Nodup
  mem_keys : ∀ c, c ∈ rows.keys ↔ c ∈ messages.map (·.code)
  row : ∀ c row, rows.get? c = some row → IsRowOf (ofCode c messages) row

theorem isTableOf_nil : IsTableOf [] [] where
  keys_nodup := List.nodup_nil
  mem_keys := fun _ => Iff.rfl
  row := by
    intro c row h
    cases h

theorem ofCode_concat (c : String) (messages : List Message) (m : Message) :
    ofCode c (messages ++ [m]) = ofCode c messages ++ if m.code = c then [m] else [] := by
  rw [ofCode, List.filter_append, List.filter_singleton]
  by_cases h : m.code = c <;> simp [ofCode, h]

section Run

variable {messages rest : List Message} {rows : Table Row} {m : Message}

/-- The row of a code that has not come up is empty. -/
theorem IsTableOf.isRowOf_getD (h : IsTableOf messages rows) (c : String) :
    IsRowOf (ofCode c messages) ((rows.get? c).getD []) := by
  cases hc : rows.get? c with
  | some row => exact h.row c row hc
  | none =>
      have hnone : ofCode c messages = [] := by
        apply List.filter_eq_nil_iff.mpr
        intro m hm
        have hkey := mt (h.mem_keys c).mpr (Table.get?_eq_none_iff.mp hc)
        simpa using fun he : m.code = c => hkey (List.mem_map.mpr ⟨m, hm, he⟩)
      rw [hnone]
      exact isRowOf_nil

theorem IsTableOf.addMessage (h : IsTableOf messages rows) (hm : IsReadable [m]) :
    ∃ rows', addMessage rows m = .ok rows' ∧ IsTableOf (messages ++ [m]) rows' := by
  obtain ⟨row, hrow, hrowOf⟩ := (h.isRowOf_getD m.code).addToRow hm
  refine ⟨rows.insert m.code row, ?_, Table.nodup_keys_insert h.keys_nodup _ _, ?_, ?_⟩
  · rw [Summary.addMessage, hrow, ok_bind]
  · intro c
    rw [Table.mem_keys_insert, h.mem_keys, List.map_append, List.mem_append, List.map_singleton,
      List.mem_singleton, or_comm]
  · intro c row' hc
    by_cases he : m.code = c
    · subst he
      rw [Table.get?_insert_self, Option.some.injEq] at hc
      rw [ofCode_concat, if_pos rfl, ← hc]
      exact hrowOf
    · rw [Table.get?_insert_of_ne (Ne.symm he)] at hc
      rw [ofCode_concat, if_neg he, List.append_nil]
      exact h.row c row' hc

/-- The rows stay those of all messages so far over a whole run. -/
theorem IsTableOf.addMessages (h : IsTableOf messages rows) (hrest : IsReadable rest) :
    ∃ rows', addMessages rows rest = .ok rows' ∧ IsTableOf (messages ++ rest) rows' := by
  induction rest generalizing messages rows with
  | nil => exact ⟨rows, rfl, by rwa [List.append_nil]⟩
  | cons m rest ih =>
      have hm : IsReadable [m] := by
        intro m' hm'
        obtain rfl := List.mem_singleton.mp hm'
        exact hrest m' List.mem_cons_self
      obtain ⟨rows₁, hrows, htable⟩ := h.addMessage hm
      obtain ⟨rows₂, hothers, hall⟩ := ih htable fun m' hm' => hrest m' (List.mem_cons_of_mem _ hm')
      refine ⟨rows₂, ?_, by rwa [List.append_assoc] at hall⟩
      rw [Summary.addMessages, hrows, ok_bind, hothers]

end Run

end MarkerLint.Summary
