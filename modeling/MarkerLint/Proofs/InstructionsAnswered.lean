import Mathlib.Algebra.Order.BigOperators.Group.List
import Mathlib.Algebra.Order.Group.Nat
import MarkerLint.Proofs.CheckAnswers
import MarkerLint.Proofs.MessageSearch

/-!
# Names that get instructions

A name is looked up as a rule's id and then, where no entry is under it, among the codes and symbols of
all messages. Instructions come from what is found, or else from the entry that stands in for missing
ones. There is no answer where the search does not get to its end, where the entry that stands in is
given but no table, and where the instructions cannot be written. Where there is an answer, an entry
that is no table has no part in it.
-/

namespace MarkerLint.Guidance

open Registry

/-- The lookup of a name ends with an entry, or without one. -/
inductive Ends (g : Guidance) (name : String) : Option (Table Value) → Prop
  /-- The name is the id of a rule whose entry holds anything. -/
  | direct {entry : Table Value} (h : nonempty? (g.entry? name) = some entry) :
      Ends g name (some entry)
  /-- The messages are searched for it. -/
  | searched {found : Option (Table Value)} (hnone : nonempty? (g.entry? name) = none)
      (h : EndsWith name g.stops found) : Ends g name found

/-- The instructions that stand in for missing ones can be read and written. -/
def HasFallback (g : Guidance) : Prop :=
  ∀ document, Data.given? (g.entries.get? fallbackKey) = some document →
    ∃ entry, document.entries? = some entry ∧ ∀ v, instructionsOf? entry = some v → v.IsWritable

/-- There are instructions for what was found, and they can be written. -/
def CanInstruct (g : Guidance) (found : Option (Table Value)) : Prop :=
  (∀ v, found.bind instructionsOf? = some v → v.IsWritable) ∧
    (found.bind instructionsOf? = none → g.HasFallback)

/-- The guidance of the registry without the entry under a key. -/
def without (g : Guidance) (key : String) : Guidance :=
  ⟨g.entries.erase key⟩

variable {g : Guidance} {name : String} {found : Option (Table Value)}

theorem entryFor?_eq_ok_iff : g.entryFor? name = .ok found ↔ g.Ends name found := by
  rw [entryFor?]
  cases hdirect : nonempty? (g.entry? name) with
  | some entry =>
      constructor
      · intro h
        cases h
        exact .direct hdirect
      · intro h
        cases h with
        | direct h => rw [Option.some.inj (hdirect.symm.trans h)]
        | searched hnone _ => cases hdirect.symm.trans hnone
  | none =>
      rw [find?_eq_ok_iff]
      constructor
      · exact .searched hdirect
      · intro h
        cases h with
        | direct h => cases hdirect.symm.trans h
        | searched _ h => exact h

theorem exists_fallbackInstructions_iff :
    (∃ text, g.fallbackInstructions = .ok text) ↔ g.HasFallback := by
  rw [fallbackInstructions, HasFallback]
  cases Data.given? (g.entries.get? fallbackKey) with
  | none => simp
  | some document =>
      cases document with
      | table entry =>
          simp only [Data.asTable, ok_bind, Option.some.injEq, forall_eq', Data.entries?,
            exists_eq_left']
          cases instructionsOf? entry with
          | none => simp
          | some v => simpa using (Data.isWrittenIff_display v).exists_iff
      | _ => simp [Data.asTable, Data.entries?, bind, Except.bind]

theorem Ends.exists_instructions_iff (h : g.Ends name found) :
    (∃ text, g.instructions name = .ok text) ↔ g.CanInstruct found := by
  rw [instructions, entryFor?_eq_ok_iff.mpr h, ok_bind, CanInstruct]
  cases found.bind instructionsOf? with
  | none => simpa using exists_fallbackInstructions_iff
  | some v => simpa using (Data.isWrittenIff_display v).exists_iff

/-- A name gets instructions exactly if its lookup ends and there are instructions for what it ends
with. -/
theorem exists_instructions_iff :
    (∃ text, g.instructions name = .ok text) ↔ ∃ found, g.Ends name found ∧ g.CanInstruct found := by
  constructor
  · rintro ⟨text, h⟩
    obtain ⟨found, hfound, -⟩ := bind_eq_ok_iff.mp h
    have hends := entryFor?_eq_ok_iff.mp hfound
    exact ⟨found, hends, hends.exists_instructions_iff.mp ⟨text, h⟩⟩
  · rintro ⟨found, hends, hcan⟩
    exact hends.exists_instructions_iff.mpr hcan

section Without

variable {key : String} {document : Value} (hn : g.entries.keys.Nodup)
  (hget : g.entries.get? key = some document) (hdocument : document.entries? = none)

include hn hget hdocument

theorem entry?_without : Guidance.entry? (g.without key) name = g.entry? name := by
  rw [ entry?, entry?, without]
  by_cases hkey : keyOf name = key
  · rw [hkey, Table.get?_erase_self hn, hget, Option.bind_some, hdocument]
    rfl
  · rw [Table.get?_erase_of_ne hkey]

omit hn in
/-- A search that gets to its end does not come to an entry that is no table. -/
theorem endsWith_without (h : EndsWith name g.stops found) :
    EndsWith name (g.without key).stops found := by
  obtain ⟨before, after, hentries, herase⟩ := Table.exists_append_of_get? hget
  have happend (xs ys : List (String × Value)) :
      stopsAmong (xs ++ ys) = stopsAmong xs ++ stopsAmong ys := by
    rw [stopsAmong, List.filter_append, List.flatMap_append]
    rfl
  rw [stops, without, herase, happend, endsWith_append_iff]
  rw [stops, hentries, happend, endsWith_append_iff, stopsAmong_cons] at h
  refine h.imp_right (And.imp_right fun hrest => ?_)
  split at hrest
  · rw [stopsAt, hdocument] at hrest
    exact absurd hrest not_endsWith_unreadable
  · exact hrest

theorem fallbackInstructions_without {text : String} (h : g.fallbackInstructions = .ok text) :
    (g.without key).fallbackInstructions = .ok text := by
  rw [fallbackInstructions] at h ⊢
  rw [without]
  by_cases hkey : fallbackKey = key
  · rw [hkey, Table.get?_erase_self hn]
    rw [hkey, hget] at h
    cases hgiven : Data.given? (some document) with
    | none =>
        rw [hgiven] at h
        exact h
    | some v =>
        rw [hgiven] at h
        obtain ⟨entry, hentry, -⟩ := bind_eq_ok_iff.mp h
        obtain ⟨hv, -⟩ := given?_eq_some_iff.mp hgiven
        obtain rfl := Option.some.inj hv
        cases hdocument.symm.trans (asTable_eq_ok_iff.mp hentry)
  · rw [Table.get?_erase_of_ne hkey]
    exact h

theorem ends_without (h : g.Ends name found) : (g.without key).Ends name found := by
  have hentry : Guidance.entry? (g.without key) name = g.entry? name :=
    entry?_without hn hget hdocument
  cases h with
  | direct h => exact .direct (hentry ▸ h)
  | searched hnone h => exact .searched (hentry ▸ hnone) (endsWith_without hget hdocument h)

/-- An entry that is no table has no part in an answer. -/
theorem instructions_without {text : String} (h : g.instructions name = .ok text) :
    (g.without key).instructions name = .ok text := by
  obtain ⟨found, hfound, htext⟩ := bind_eq_ok_iff.mp h
  have hends := ends_without hn hget hdocument (entryFor?_eq_ok_iff.mp hfound)
  rw [instructions, entryFor?_eq_ok_iff.mpr hends, ok_bind]
  cases hgiven : found.bind instructionsOf? with
  | some v =>
      rw [hgiven] at htext
      exact htext
  | none =>
      rw [hgiven] at htext
      exact fallbackInstructions_without hn hget hdocument htext

end Without

section Readable

/-- The entry of a rule is a table. So are its messages, if they are given, and each of them that is a
table has a code. -/
def HasCodes (document : Value) : Prop :=
  ∃ entry messages, document.entries? = some entry ∧ messagesOf .values entry = .ok messages ∧
    ∀ id fields, (id, .table fields) ∈ messages → ∃ code, messageCode entry fields = .ok code

/-- Whatever a lookup may come to can be read and written. -/
structure IsReadable (g : Guidance) : Prop where
  codes : ∀ e ∈ g.entries, isRuleKey e.1 = true → HasCodes e.2
  instructions : ∀ e ∈ g.entries, Text.beginsWith keyStart e.1 = true →
    ∀ entry, e.2.entries? = some entry → ∀ v, instructionsOf? entry = some v → v.IsWritable
  fallback : g.HasFallback

/-- The stop is a message with a code. -/
def Stop.IsCoded : Stop → Prop
  | .message entry fields => ∃ code, messageCode entry fields = .ok code
  | .unreadable => False

theorem Stop.IsPassed.isCoded {stop : Stop} (h : stop.IsPassed name) : stop.IsCoded := by
  cases stop with
  | message entry fields =>
      obtain ⟨-, code, hcode, -⟩ := h
      exact ⟨code, hcode⟩
  | unreadable => exact h

theorem hasCodes_iff (document : Value) :
    HasCodes document ↔ ∀ s ∈ stopsAt document, s.IsCoded := by
  constructor
  · rintro ⟨entry, messages, hdocument, hmessages, hcodes⟩ s hs
    rw [stopsAt_eq_messageStops hdocument hmessages] at hs
    obtain ⟨id, fields, hm, rfl⟩ := mem_messageStops_iff.mp hs
    exact hcodes id fields hm
  · intro h
    rcases stopsAt_cases document with hstops | ⟨entry, messages, hdocument, hmessages⟩
    · exact absurd (h .unreadable (hstops ▸ List.mem_singleton_self _)) id
    · rw [stopsAt_eq_messageStops hdocument hmessages] at h
      exact ⟨entry, messages, hdocument, hmessages, fun id fields hm =>
        h _ (mem_messageStops_iff.mpr ⟨id, fields, hm, rfl⟩)⟩

/-- A search through messages with codes gets to its end. -/
theorem exists_endsWith_of_isCoded {stops : List Stop} (h : ∀ s ∈ stops, s.IsCoded)
    (name : String) : ∃ found, EndsWith name stops found := by
  induction stops with
  | nil => exact ⟨none, .nothing⟩
  | cons s rest ih =>
      obtain ⟨hs, hrest⟩ := List.forall_mem_cons.mp h
      obtain ⟨found, hfound⟩ := ih hrest
      cases s with
      | unreadable => exact hs.elim
      | message entry fields =>
          obtain ⟨code, hcode⟩ := hs
          by_cases hknown : IsKnownAs name entry fields
          · exact ⟨some entry, .known hknown rest⟩
          · obtain ⟨hsymbol, hname⟩ := not_or.mp hknown
            exact ⟨found, .passed ⟨hsymbol, code, hcode, fun hc => hname (hc ▸ hcode)⟩ hfound⟩

/-- The names under which a stop is known. -/
def Stop.names : Stop → List String
  | .message entry fields =>
      (match fields.get? "symbol" with
        | some (.text symbol) => [symbol]
        | _ => []) ++ (messageCode entry fields).toOption.toList
  | .unreadable => []

theorem Stop.IsHit.mem_names {stop : Stop} {entry : Table Value} (h : stop.IsHit name entry) :
    name ∈ stop.names := by
  obtain ⟨fields, rfl, hsymbol | hcode⟩ := h
  · rw [names, hsymbol]
    exact List.mem_append_left _ (List.mem_singleton_self name)
  · rw [names, hcode]
    exact List.mem_append_right _ (List.mem_singleton_self name)

theorem length_le_length_keyOf (name : String) : name.length ≤ (keyOf name).length := by
  rw [keyOf]
  split
  · exact le_refl _
  · rw [String.length_append]
    exact Nat.le_add_left _ _

/-- There is a name under which nothing is registered, since the registered ones have a longest one. -/
theorem exists_unregistered (g : Guidance) :
    ∃ name, g.entry? name = none ∧ ∀ s ∈ g.stops, ∀ entry, ¬ s.IsHit name entry := by
  obtain ⟨n, hn⟩ : ∃ n, ∀ s ∈ g.entries.keys ++ g.stops.flatMap Stop.names, s.length ≤ n :=
    ⟨_, fun s hs => List.single_le_sum (fun _ _ => Nat.zero_le _) _ (List.mem_map_of_mem hs)⟩
  obtain ⟨name, hname⟩ : ∃ name : String, n < name.length := by
    refine ⟨String.ofList (List.replicate (n + 1) 'x'), ?_⟩
    rw [String.length_ofList, List.length_replicate]
    exact Nat.lt_succ_self n
  have hfresh {s : String} (hs : s ∈ g.entries.keys ++ g.stops.flatMap Stop.names) :
      s.length < name.length := (hn s hs).trans_lt hname
  refine ⟨name, ?_, fun s hs entry hhit => ?_⟩
  · have hkey : keyOf name ∉ g.entries.keys := fun hmem =>
      (length_le_length_keyOf name).not_gt (hfresh (List.mem_append_left _ hmem))
    rw [ entry?, Table.get?_eq_none_iff.mpr hkey, Option.bind_none]
  · have hmem := List.mem_flatMap.mpr ⟨s, hs, hhit.mem_names⟩
    exact lt_irrefl _ (hfresh (List.mem_append_right _ hmem))

theorem IsReadable.exists_instructions (h : g.IsReadable) (name : String) :
    ∃ text, g.instructions name = .ok text := by
  rw [exists_instructions_iff]
  cases hdirect : nonempty? (g.entry? name) with
  | some entry =>
      obtain ⟨hentry, -⟩ := Option.filter_eq_some_iff.mp hdirect
      obtain ⟨document, hget, hdocument⟩ := Option.bind_eq_some_iff.mp hentry
      exact ⟨some entry, .direct hdirect,
        h.instructions _ (Table.mem_of_get?_eq_some hget) (beginsWith_keyOf name) entry hdocument,
        fun _ => h.fallback⟩
  | none =>
      have hcoded : ∀ s ∈ g.stops, s.IsCoded := by
        intro s hs
        obtain ⟨e, he, hkey, hs⟩ := mem_stops_iff.mp hs
        exact (hasCodes_iff e.2).mp (h.codes e he hkey) s hs
      obtain ⟨found, hfound⟩ := exists_endsWith_of_isCoded hcoded name
      refine ⟨found, .searched hdirect hfound, fun v hv => ?_, fun _ => h.fallback⟩
      obtain ⟨entry, rfl, hinstructions⟩ := Option.bind_eq_some_iff.mp hv
      obtain ⟨⟨s, hs, fields, rfl, -⟩, -⟩ := endsWith_some_iff.mp hfound
      obtain ⟨e, he, hkey, hs⟩ := mem_stops_iff.mp hs
      obtain ⟨hstart, -⟩ := Bool.and_eq_true_iff.mp hkey
      exact h.instructions e he hstart entry (entries?_of_mem_stopsAt hs) v hinstructions

/-- The instructions of an entry can be written if the rule's key gets instructions. -/
theorem isWritable_of_exists_instructions (hn : g.entries.keys.Nodup) {key : String}
    {document : Value} {entry : Table Value} {v : Value} (hmem : (key, document) ∈ g.entries)
    (hkey : Text.beginsWith keyStart key = true) (hdocument : document.entries? = some entry)
    (hv : instructionsOf? entry = some v) (h : ∃ text, g.instructions key = .ok text) :
    v.IsWritable := by
  have hentry : g.entry? key = some entry := by
    rw [ entry?, keyOf, if_pos hkey, Table.get?_eq_some_of_mem hn hmem, Option.bind_some, hdocument]
  have hdirect : nonempty? (g.entry? key) = some entry := by
    cases entry with
    | nil => cases hv
    | cons e rest =>
        rw [hentry]
        rfl
  obtain ⟨hwritable, -⟩ := (Ends.direct hdirect).exists_instructions_iff.mp h
  exact hwritable v hv

theorem isReadable_of_forall (hn : g.entries.keys.Nodup)
    (h : ∀ name, ∃ text, g.instructions name = .ok text) : g.IsReadable := by
  obtain ⟨name, hentry, hhits⟩ := exists_unregistered g
  obtain ⟨found, hends, hcan⟩ := exists_instructions_iff.mp (h name)
  have hnothing : found = none ∧ EndsWith name g.stops none := by
    cases hends with
    | direct hdirect =>
        rw [hentry] at hdirect
        cases hdirect
    | searched _ hsearch =>
        cases found with
        | none => exact ⟨rfl, hsearch⟩
        | some entry =>
            obtain ⟨⟨s, hs, hhit⟩, -⟩ := endsWith_some_iff.mp hsearch
            exact absurd hhit (hhits s hs entry)
  obtain ⟨rfl, hnothing⟩ := hnothing
  constructor
  case codes =>
    intro e he hkey
    rw [hasCodes_iff]
    intro s hs
    exact (endsWith_none_iff.mp hnothing s (mem_stops_iff.mpr ⟨e, he, hkey, hs⟩)).isCoded
  case instructions =>
    intro e he hstart entry hdocument v hv
    exact isWritable_of_exists_instructions hn he hstart hdocument hv (h e.1)
  case fallback => exact hcan.2 rfl

end Readable

/-- A name gets instructions exactly if its lookup ends and there are instructions for what it ends
with, and every name does exactly if whatever a lookup may come to can be read and written. An entry
that is no table has no part in the instructions. -/
theorem instructions_answered_iff (hn : g.entries.keys.Nodup) :
    (∀ name, (∃ text, g.instructions name = .ok text) ↔
      ∃ found, g.Ends name found ∧ g.CanInstruct found) ∧
    ((∀ name, ∃ text, g.instructions name = .ok text) ↔ g.IsReadable) ∧
    ∀ key document, g.entries.get? key = some document → document.entries? = none →
      ∀ name text, g.instructions name = .ok text →
        (g.without key).instructions name = .ok text := by
  refine ⟨fun name => exists_instructions_iff, ?_, ?_⟩
  · exact ⟨isReadable_of_forall hn, IsReadable.exists_instructions⟩
  · intro key document hget hdocument name text h
    exact instructions_without hn hget hdocument h

/-- A registry with an entry that is null after one with instructions. -/
def partialRules : Guidance :=
  ⟨[("aabha.full", .table [("manual_instructions", .text "Do it.")]), ("aabha.empty", .null)]⟩

/-- A rule that is found under its id gets its instructions, whatever else is in the registry; other
names get none. -/
theorem instructions_answered_iff_partialRules :
    partialRules.entries.keys.Nodup ∧ partialRules.instructions "full" = .ok "Do it." ∧
      (∃ found, partialRules.Ends "full" found ∧ partialRules.CanInstruct found) ∧
      ¬ partialRules.IsReadable ∧
      (partialRules.without "aabha.empty").instructions "full" = .ok "Do it." := by
  have hn : partialRules.entries.keys.Nodup := by decide
  obtain ⟨hiff, hall, hwithout⟩ := instructions_answered_iff hn
  refine ⟨hn, rfl, (hiff "full").mp ⟨_, rfl⟩, fun hreadable => ?_,
    hwithout "aabha.empty" .null rfl rfl _ _ rfl⟩
  obtain ⟨text, htext⟩ := hall.mpr hreadable "unknown"
  cases htext

/-- Where the name is not the id of a rule, the null entry ends the search without an answer, although
it counts as no entry when it is asked for. -/
theorem null_entry_ends_search :
    partialRules.entry? "empty" = none ∧
      partialRules.instructions "unknown" = .error (.notATable .null .get) ∧
      (partialRules.without "aabha.empty").instructions "unknown" = .ok lastResort :=
  ⟨rfl, rfl, rfl⟩

end MarkerLint.Guidance
