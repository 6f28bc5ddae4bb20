import MarkerLint.Proofs.RegistryReaders
import MarkerLint.Registry.Guidance

/-!
# The search for a message

A rule is found by a code or a symbol in a search that goes through the messages of all rules in the
order of the registry. The search ends at the first message that is known under the name. A message
with another symbol is passed over if its code can be written, so that it is known to be another one;
whatever else comes in between, such as an entry that is no table, ends the search without an answer.
-/

namespace MarkerLint.Guidance

open Registry

/-- What the search comes to: a message of an entry, or something that it cannot go through. -/
inductive Stop where
  | message (entry fields : Table Value)
  | unreadable

/-- The message is known under the name, which is its symbol or its code. -/
def IsKnownAs (name : String) (entry fields : Table Value) : Prop :=
  fields.get? "symbol" = some (.text name) ∨ messageCode entry fields = .ok name

/-- The message has another symbol and another code. -/
def IsOther (name : String) (entry fields : Table Value) : Prop :=
  fields.get? "symbol" ≠ some (.text name) ∧
    ∃ code, messageCode entry fields = .ok code ∧ code ≠ name

/-- The stop is a message that is known to be another one. -/
def Stop.IsPassed (name : String) : Stop → Prop
  | .message entry fields => IsOther name entry fields
  | .unreadable => False

/-- The search for a name through stops ends with the entry of the first message known under it, or
without one if there is none. -/
inductive EndsWith (name : String) : List Stop → Option (Table Value) → Prop
  | nothing : EndsWith name [] none
  | known {entry fields : Table Value} (h : IsKnownAs name entry fields) (rest : List Stop) :
      EndsWith name (.message entry fields :: rest) (some entry)
  | passed {stop : Stop} {rest : List Stop} {found : Option (Table Value)}
      (h : stop.IsPassed name) (hrest : EndsWith name rest found) :
      EndsWith name (stop :: rest) found

/-- The messages of an entry that are tables. -/
def messageStops (entry : Table Value) (messages : List (String × Value)) : List Stop :=
  messages.filterMap fun m => m.2.entries?.map (Stop.message entry)

/-- The stops at an entry of a rule. -/
def stopsAt (document : Value) : List Stop :=
  match document.entries? with
  | none => [.unreadable]
  | some entry =>
      match Data.given? (entry.get? "messages") with
      | none => []
      | some v =>
          match v.entries? with
          | none => [.unreadable]
          | some messages => messageStops entry messages

/-- The stops at the rules among entries, in order. -/
def stopsAmong (entries : List (String × Value)) : List Stop :=
  (entries.filter fun e => isRuleKey e.1).flatMap fun e => stopsAt e.2

/-- The stops at the rules of the registry. -/
def stops (g : Guidance) : List Stop :=
  stopsAmong g.entries

theorem beginsWith_keyOf (ruleId : String) : Text.beginsWith keyStart (keyOf ruleId) = true := by
  rw [keyOf]
  split
  · next h => exact h
  · rw [Text.beginsWith, String.toList_append, List.isPrefixOf_iff_prefix]
    exact List.prefix_append _ _

section Search

variable {name : String} {entry fields : Table Value} {found : Option (Table Value)}
  {xs ys : List Stop}

theorem isText_symbol_iff :
    ((fields.get? "symbol").getD .null).isText name = true ↔
      fields.get? "symbol" = some (.text name) := by
  cases hget : fields.get? "symbol" with
  | none => simp [Data.isText]
  | some v =>
      cases v with
      | text s => simp [Data.isText]
      | _ => simp [Data.isText]

theorem answersTo_eq_true_iff :
    answersTo entry fields name = .ok true ↔ IsKnownAs name entry fields := by
  rw [answersTo, IsKnownAs]
  split
  · next h => exact iff_of_true rfl (.inl (isText_symbol_iff.mp h))
  · next h =>
      rw [isText_symbol_iff] at h
      rw [or_iff_right h, bind_eq_ok_iff]
      constructor
      · rintro ⟨code, hcode, heq⟩
        rw [hcode, beq_iff_eq.mp (Except.ok.inj heq)]
      · intro hcode
        exact ⟨name, hcode, by rw [beq_self_eq_true]⟩

theorem answersTo_eq_false_iff :
    answersTo entry fields name = .ok false ↔ IsOther name entry fields := by
  rw [answersTo, IsOther]
  split
  · next h =>
      rw [isText_symbol_iff] at h
      exact iff_of_false (fun he => by cases he) (fun hother => hother.1 h)
  · next h =>
      rw [isText_symbol_iff] at h
      rw [bind_eq_ok_iff, and_iff_right h]
      refine exists_congr fun code => and_congr_right fun _ => ?_
      rw [Except.ok.injEq, beq_eq_false_iff_ne]

/-- Stops that follow each other are searched one after the other. -/
theorem endsWith_append_iff :
    EndsWith name (xs ++ ys) found ↔
      (∃ entry, found = some entry ∧ EndsWith name xs (some entry)) ∨
        EndsWith name xs none ∧ EndsWith name ys found := by
  induction xs with
  | nil =>
      constructor
      · intro h
        exact .inr ⟨.nothing, h⟩
      · rintro (⟨entry, -, h⟩ | ⟨-, h⟩)
        · cases h
        · exact h
  | cons stop rest ih =>
      constructor
      · intro h
        cases h with
        | known h => exact .inl ⟨_, rfl, .known h rest⟩
        | passed h hrest =>
            rcases ih.mp hrest with ⟨entry, rfl, hfound⟩ | ⟨hnone, hys⟩
            · exact .inl ⟨entry, rfl, .passed h hfound⟩
            · exact .inr ⟨.passed h hnone, hys⟩
      · rintro (⟨entry, rfl, h⟩ | ⟨h, hys⟩)
        · cases h with
          | known h => exact .known h _
          | passed h hrest => exact .passed h (ih.mpr (.inl ⟨entry, rfl, hrest⟩))
        · cases h with
          | passed h hrest => exact .passed h (ih.mpr (.inr ⟨hrest, hys⟩))

theorem endsWith_message_iff {rest : List Stop} :
    EndsWith name (.message entry fields :: rest) found ↔
      IsKnownAs name entry fields ∧ found = some entry ∨
        IsOther name entry fields ∧ EndsWith name rest found := by
  constructor
  · intro h
    cases h with
    | known h => exact .inl ⟨h, rfl⟩
    | passed h hrest => exact .inr ⟨h, hrest⟩
  · rintro (⟨h, rfl⟩ | ⟨h, hrest⟩)
    · exact .known h rest
    · exact .passed h hrest

theorem not_endsWith_unreadable {rest : List Stop} :
    ¬ EndsWith name (.unreadable :: rest) found := by
  intro h
  cases h with
  | passed h _ => exact h

theorem mem_messageStops_iff {messages : List (String × Value)} {stop : Stop} :
    stop ∈ messageStops entry messages ↔
      ∃ id fields, (id, .table fields) ∈ messages ∧ stop = .message entry fields := by
  rw [messageStops, List.mem_filterMap]
  constructor
  · rintro ⟨⟨id, message⟩, hm, hstop⟩
    cases message with
    | table fields => exact ⟨id, fields, hm, (Option.some.inj hstop).symm⟩
    | _ => cases hstop
  · rintro ⟨id, fields, hm, rfl⟩
    exact ⟨(id, .table fields), hm, rfl⟩

/-- A search through the messages of an entry finds no other entry. -/
theorem eq_of_endsWith_messageStops {messages : List (String × Value)} {other : Table Value}
    (h : EndsWith name (messageStops entry messages) (some other)) : other = entry := by
  generalize hstops : messageStops entry messages = stops at h
  have hof : ∀ s ∈ stops, ∃ fields, s = .message entry fields := by
    intro s hs
    obtain ⟨_, fields, _, rfl⟩ := mem_messageStops_iff.mp (hstops ▸ hs)
    exact ⟨fields, rfl⟩
  clear hstops
  induction stops with
  | nil => cases h
  | cons s rest ih =>
      obtain ⟨⟨fields, rfl⟩, hrest⟩ := List.forall_mem_cons.mp hof
      rcases endsWith_message_iff.mp h with ⟨-, he⟩ | ⟨-, h⟩
      · exact Option.some.inj he
      · exact ih h hrest

/-- Whether one of the messages is known under a name is the search through them. -/
theorem anyAnswersTo_eq_ok_iff (entry : Table Value) (messages : List (String × Value)) (b : Bool) :
    anyAnswersTo entry name messages = .ok b ↔
      EndsWith name (messageStops entry messages) (if b then some entry else none) := by
  induction messages with
  | nil =>
      cases b with
      | true => exact iff_of_false (fun h => by cases h) (fun h => by cases h)
      | false => exact iff_of_true rfl .nothing
  | cons m rest ih =>
      obtain ⟨id, message⟩ := m
      cases message with
      | table fields =>
          have hstops : messageStops entry ((id, .table fields) :: rest) =
              .message entry fields :: messageStops entry rest := rfl
          rw [hstops, endsWith_message_iff, ← answersTo_eq_true_iff, ← answersTo_eq_false_iff, ← ih,
            anyAnswersTo, bind_eq_ok_iff]
          cases b <;> simp [Bool.exists_bool, or_comm]
      | _ => exact ih

theorem asTable_eq_ok_iff {v : Value} {use : TableUse} {t : Table Value} :
    v.asTable use = .ok t ↔ v.entries? = some t := by
  cases v <;> simp [Data.asTable, Data.entries?]

theorem stopsAt_eq_messageStops {document : Value} {messages : Table Value}
    (hdocument : document.entries? = some entry) (h : messagesOf .values entry = .ok messages) :
    stopsAt document = messageStops entry messages := by
  rw [messagesOf] at h
  simp only [stopsAt, hdocument]
  cases hgiven : Data.given? (entry.get? "messages") with
  | none =>
      rw [hgiven] at h
      cases h
      rfl
  | some v =>
      rw [hgiven] at h
      simp only [asTable_eq_ok_iff.mp h]

/-- An entry is read through the messages of a table, or not at all. -/
theorem stopsAt_cases (document : Value) :
    stopsAt document = [.unreadable] ∨
      ∃ entry messages, document.entries? = some entry ∧ messagesOf .values entry = .ok messages := by
  rw [stopsAt]
  cases document.entries? with
  | none => exact .inl rfl
  | some entry =>
      simp only [Option.some.injEq, exists_and_left, exists_eq_left', messagesOf]
      cases Data.given? (entry.get? "messages") with
      | none => exact .inr ⟨[], rfl⟩
      | some v =>
          simp only [asTable_eq_ok_iff]
          cases v.entries? with
          | none => exact .inl rfl
          | some messages => exact .inr ⟨messages, rfl⟩

/-- The search through the stops at an entry is the one through its messages, if it is a table and its
messages are. -/
theorem endsWith_stopsAt_iff (document : Value) :
    EndsWith name (stopsAt document) found ↔
      ∃ entry messages, document.entries? = some entry ∧
        messagesOf .values entry = .ok messages ∧
        EndsWith name (messageStops entry messages) found := by
  constructor
  · intro h
    rcases stopsAt_cases document with hstops | ⟨entry, messages, hdocument, hmessages⟩
    · rw [hstops] at h
      exact absurd h not_endsWith_unreadable
    · rw [stopsAt_eq_messageStops hdocument hmessages] at h
      exact ⟨entry, messages, hdocument, hmessages, h⟩
  · rintro ⟨entry, messages, hdocument, hmessages, h⟩
    rw [stopsAt_eq_messageStops hdocument hmessages]
    exact h

/-- The messages that the search comes to in an entry are messages of the entry. -/
theorem entries?_of_mem_stopsAt {document : Value} (h : .message entry fields ∈ stopsAt document) :
    document.entries? = some entry := by
  rcases stopsAt_cases document with hstops | ⟨other, messages, hdocument, hmessages⟩
  · rw [hstops] at h
    cases List.mem_singleton.mp h
  · rw [stopsAt_eq_messageStops hdocument hmessages] at h
    obtain ⟨_, _, _, heq⟩ := mem_messageStops_iff.mp h
    obtain ⟨rfl, -⟩ := Stop.message.inj heq
    exact hdocument

/-- The search at a rule ends with its entry, or goes on with the other rules. -/
theorem searchAt_eq_ok_iff (document : Value) (continued : Except Fault (Option (Table Value))) :
    (do
      let entry ← document.asTable .get
      let messages ← messagesOf .values entry
      if ← anyAnswersTo entry name messages then .ok (some entry) else continued) = .ok found ↔
      (∃ entry, found = some entry ∧ EndsWith name (stopsAt document) (some entry)) ∨
        EndsWith name (stopsAt document) none ∧ continued = .ok found := by
  simp only [endsWith_stopsAt_iff, bind_eq_ok_iff, asTable_eq_ok_iff, anyAnswersTo_eq_ok_iff]
  constructor
  · rintro ⟨entry, hentry, messages, hmessages, b, hb, h⟩
    cases b with
    | true =>
        cases h
        exact .inl ⟨entry, rfl, entry, messages, hentry, hmessages, hb⟩
    | false => exact .inr ⟨⟨entry, messages, hentry, hmessages, hb⟩, h⟩
  · rintro (⟨other, rfl, entry, messages, hentry, hmessages, h⟩ |
      ⟨⟨entry, messages, hentry, hmessages, h⟩, hfound⟩)
    · obtain rfl := eq_of_endsWith_messageStops h
      exact ⟨_, hentry, messages, hmessages, true, h, rfl⟩
    · exact ⟨entry, hentry, messages, hmessages, false, h, hfound⟩

theorem stopsAmong_cons (key : String) (document : Value) (rest : List (String × Value)) :
    stopsAmong ((key, document) :: rest) =
      if isRuleKey key then stopsAt document ++ stopsAmong rest else stopsAmong rest := by
  rw [stopsAmong, List.filter_cons]
  split
  · exact List.flatMap_cons
  · rfl

theorem mem_stops_iff {g : Guidance} {stop : Stop} :
    stop ∈ g.stops ↔ ∃ e ∈ g.entries, isRuleKey e.1 = true ∧ stop ∈ stopsAt e.2 := by
  simp only [stops, stopsAmong, List.mem_flatMap, List.mem_filter, and_assoc]

/-- What is found among entries is what the search through their stops ends with. -/
theorem findAmong_eq_ok_iff (entries : List (String × Value)) :
    findAmong name entries = .ok found ↔ EndsWith name (stopsAmong entries) found := by
  induction entries with
  | nil =>
      constructor
      · intro h
        cases h
        exact .nothing
      · intro h
        cases h
        rfl
  | cons e rest ih =>
      obtain ⟨key, document⟩ := e
      rw [findAmong, stopsAmong_cons]
      split
      · rw [searchAt_eq_ok_iff, endsWith_append_iff, ih]
      · exact ih

theorem find?_eq_ok_iff {g : Guidance} : g.find? name = .ok found ↔ EndsWith name g.stops found :=
  findAmong_eq_ok_iff g.entries

end Search

section Obstacles

variable {name : String} {entry fields : Table Value} {stops : List Stop}

/-- The stop is a message of the entry that is known under the name. -/
def Stop.IsHit (name : String) (entry : Table Value) (stop : Stop) : Prop :=
  ∃ fields, stop = .message entry fields ∧ IsKnownAs name entry fields

/-- In front of the messages of the entry that are known under the name there is a stop that the search
does not pass: something unreadable, a message of another entry that is known under the name, or one
whose code cannot be written. -/
def IsHeldUp (name : String) (entry : Table Value) (stops : List Stop) : Prop :=
  ∃ before stop after, stops = before ++ stop :: after ∧
    (∀ s ∈ before, ¬ s.IsHit name entry) ∧ ¬ stop.IsHit name entry ∧ ¬ stop.IsPassed name

theorem not_isHeldUp_of_forall (h : ∀ s ∈ stops, s.IsHit name entry ∨ s.IsPassed name) :
    ¬ IsHeldUp name entry stops := by
  rintro ⟨before, stop, after, rfl, -, hhit, hpassed⟩
  rcases h stop (by simp) with h | h
  · exact hhit h
  · exact hpassed h

theorem isHeldUp_cons_iff {stop : Stop} (h : ¬ stop.IsHit name entry) :
    IsHeldUp name entry (stop :: stops) ↔
      ¬ stop.IsPassed name ∨ IsHeldUp name entry stops := by
  constructor
  · rintro ⟨before, s, after, hsplit, hbefore, hhit, hpassed⟩
    cases before with
    | nil =>
        obtain ⟨rfl, -⟩ := List.cons.inj hsplit
        exact .inl hpassed
    | cons b before =>
        exact .inr ⟨before, s, after, (List.cons.inj hsplit).2,
          fun x hx => hbefore x (List.mem_cons_of_mem b hx), hhit, hpassed⟩
  · rintro (hpassed | ⟨before, s, after, rfl, hbefore, hhit, hpassed⟩)
    · exact ⟨[], stop, stops, rfl, List.forall_mem_nil _, h, hpassed⟩
    · exact ⟨stop :: before, s, after, rfl, List.forall_mem_cons.mpr ⟨h, hbefore⟩, hhit, hpassed⟩

/-- The search ends with an entry exactly if the entry has a message known under the name and nothing
holds the search up on the way to it. -/
theorem endsWith_some_iff :
    EndsWith name stops (some entry) ↔
      (∃ s ∈ stops, s.IsHit name entry) ∧ ¬ IsHeldUp name entry stops := by
  induction stops with
  | nil =>
      refine iff_of_false (fun h => by cases h) ?_
      rintro ⟨⟨s, hs, -⟩, -⟩
      cases hs
  | cons stop rest ih =>
      by_cases hhit : stop.IsHit name entry
      · obtain ⟨fields, rfl, hknown⟩ := id hhit
        refine iff_of_true (.known hknown rest) ⟨⟨_, List.mem_cons_self, hhit⟩, ?_⟩
        rintro ⟨before, s, after, hsplit, hbefore, hs, -⟩
        cases before with
        | nil =>
            obtain ⟨rfl, -⟩ := List.cons.inj hsplit
            exact hs hhit
        | cons b before =>
            obtain ⟨rfl, -⟩ := List.cons.inj hsplit
            exact hbefore _ List.mem_cons_self hhit
      · rw [isHeldUp_cons_iff hhit, not_or, Classical.not_not]
        constructor
        · intro h
          cases h with
          | known h => exact absurd ⟨_, rfl, h⟩ hhit
          | passed h hrest =>
              obtain ⟨⟨s, hs, hhit⟩, hfree⟩ := ih.mp hrest
              exact ⟨⟨s, List.mem_cons_of_mem _ hs, hhit⟩, h, hfree⟩
        · rintro ⟨⟨s, hs, hhit'⟩, hpassed, hfree⟩
          rcases List.mem_cons.mp hs with rfl | hs
          · exact absurd hhit' hhit
          · exact .passed hpassed (ih.mpr ⟨⟨s, hs, hhit'⟩, hfree⟩)

/-- A search that finds nothing has passed everything. -/
theorem endsWith_none_iff : EndsWith name stops none ↔ ∀ s ∈ stops, s.IsPassed name := by
  induction stops with
  | nil => exact iff_of_true .nothing (List.forall_mem_nil _)
  | cons s rest ih =>
      rw [List.forall_mem_cons, ← ih]
      constructor
      · intro h
        cases h with
        | passed hs hrest => exact ⟨hs, hrest⟩
      · rintro ⟨hs, hrest⟩
        exact .passed hs hrest

end Obstacles

end MarkerLint.Guidance
