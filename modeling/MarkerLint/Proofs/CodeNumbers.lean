import MarkerLint.Proofs.Elementwise
import MarkerLint.Proofs.RegistryReaders
import MarkerLint.Proofs.WrittenDates

/-!
# Codes from numbers

A code is put together from the letter of a rule's category, the number of its checker and the number
of a message, each number filled up to two digits. Where the numbers have one or two digits, filling
them up loses nothing: the code tells both numbers, so the messages of a rule do not overwrite each
other and no two rules share a code.
-/

namespace MarkerLint.Registry

open Calendar Text

/-- The number that one or two digits write. -/
def shortNumber? (s : String) : Option Nat :=
  match s.toList with
  | [a] => if isAsciiDigit a then some (digitValue a) else none
  | [a, b] =>
      if isAsciiDigit a && isAsciiDigit b then some (digitValue a * 10 + digitValue b) else none
  | _ => none

/-- The number under a key, if a text of one or two digits stands there. -/
def numberUnder? (key : String) (t : Table Value) : Option Nat :=
  ((t.get? key).bind Data.text?).bind shortNumber?

/-- The number of a message that is a table. -/
def messageNumber? (message : Value) : Option Nat :=
  message.entries?.bind (numberUnder? "number")

/-- A text stands under the key, or nothing. -/
def IsTextOrMissing (t : Table Value) (key : String) : Prop :=
  ∀ v, t.get? key = some v → ∃ s, v = .text s

/-- The message has a number of one or two digits and a template that is not empty. -/
structure IsNumberedMessage (fields : Table Value) (number : Nat) : Prop where
  number_eq : numberUnder? "number" fields = some number
  template : ∃ s, fields.get? "message_template" = some (.text s) ∧ s.isEmpty = false
  symbol : IsTextOrMissing fields "symbol"

/-- The rule is registered with a number for its checker and one for each of its messages, which are
all different. -/
structure IsNumbered (registry : Registry) (ruleId : String) (checker : Nat)
    (entry messages : Table Value) : Prop where
  entry_eq : registry.entry? ruleId = .ok (some entry)
  messages_eq : messagesOf .items entry = .ok messages
  checker_eq : numberUnder? "checker_id" entry = some checker
  ruleType : IsTextOrMissing entry "rule_type"
  shortDescription : IsTextOrMissing entry "short_description"
  displayName : IsTextOrMissing entry "display_name"
  numbered : ∀ m ∈ messages, ∃ fields number, m.2 = .table fields ∧ IsNumberedMessage fields number
  distinct : messages.Pairwise fun m n => messageNumber? m.2 ≠ messageNumber? n.2

section Numbers

variable {s key fallback : String} {n : Nat} {t : Table Value}

/-- A short number is written with one digit or with two. -/
theorem shortNumber?_cases (h : shortNumber? s = some n) :
    (∃ a, s.toList = [a] ∧ isAsciiDigit a = true ∧ n = digitValue a) ∨
      ∃ a b, s.toList = [a, b] ∧ isAsciiDigit a = true ∧ isAsciiDigit b = true ∧
        n = digitValue a * 10 + digitValue b := by
  rw [shortNumber?] at h
  split at h
  · next a hs =>
      split at h
      · next ha => exact .inl ⟨a, hs, ha, (Option.some.inj h).symm⟩
      · cases h
  · next a b hs =>
      split at h
      · next hab =>
          obtain ⟨ha, hb⟩ := Bool.and_eq_true_iff.mp hab
          exact .inr ⟨a, b, hs, ha, hb, (Option.some.inj h).symm⟩
      · cases h
  · cases h

theorem lt_of_shortNumber? (h : shortNumber? s = some n) : n < 100 := by
  rcases shortNumber?_cases h with ⟨a, -, ha, rfl⟩ | ⟨a, b, -, ha, hb, rfl⟩
  · have := digitValue_lt ha
    omega
  · have := digitValue_lt ha
    have := digitValue_lt hb
    omega

theorem twoDigits_singleton {a : Char} (hs : s.toList = [a]) (ha : isAsciiDigit a = true) :
    twoDigits s = "0" ++ s := by
  have hlength : s.length = 1 := by rw [← String.length_toList, hs, List.length_singleton]
  have hsign : (a == '+' || a == '-') = false := by
    rw [Bool.or_eq_false_iff, beq_eq_false_iff_ne, beq_eq_false_iff_ne]
    constructor <;> rintro rfl <;> cases ha
  rw [twoDigits, if_neg (by omega), hs]
  simp only [hsign, Bool.false_eq_true, if_false]

/-- One or two digits are filled up to the two digits of their number. -/
theorem toList_twoDigits (h : shortNumber? s = some n) : (twoDigits s).toList = padded 2 n := by
  rcases shortNumber?_cases h with ⟨a, hs, ha, rfl⟩ | ⟨a, b, hs, ha, hb, rfl⟩
  · have hpadded := padded_two (a := '0') (by decide) ha
    rw [show digitValue '0' = 0 from rfl, Nat.zero_mul, Nat.zero_add] at hpadded
    rw [twoDigits_singleton hs ha, String.toList_append, hs, hpadded]
    rfl
  · have hlength : s.length = 2 := by
      rw [← String.length_toList, hs]
      rfl
    rw [twoDigits, if_pos (by omega), hs, padded_two ha hb]

theorem exists_text_of_numberUnder? (h : numberUnder? key t = some n) :
    ∃ s, t.get? key = some (.text s) ∧ shortNumber? s = some n := by
  obtain ⟨s, hs, hnumber⟩ := Option.bind_eq_some_iff.mp h
  obtain ⟨v, hget, hv⟩ := Option.bind_eq_some_iff.mp hs
  cases v with
  | text _ =>
      cases hv
      exact ⟨s, hget, hnumber⟩
  | _ => cases hv

/-- A field that holds a text or nothing has a text. -/
theorem IsTextOrMissing.exists_fieldText (h : IsTextOrMissing t key) (fallback : String) :
    ∃ s, fieldText t key fallback = .ok s := by
  rw [fieldText]
  cases hget : t.get? key with
  | none => exact ⟨fallback, rfl⟩
  | some v =>
      obtain ⟨s, rfl⟩ := h v hget
      exact ⟨s, rfl⟩

theorem fieldText_of_get? (h : t.get? key = some (.text s)) : fieldText t key fallback = .ok s := by
  rw [fieldText, h]
  rfl

end Numbers

section Rule

variable {registry : Registry} {ruleId : String} {checker : Nat} {entry messages : Table Value}

/-- The letter of an entry is one of two. -/
theorem exists_category (h : IsTextOrMissing entry "rule_type") :
    ∃ letter : Char, (letter = 'E' ∨ letter = 'W') ∧ category entry = .ok (String.ofList [letter]) := by
  obtain ⟨ruleType, htype⟩ := h.exists_fieldText "problem"
  rw [category, htype, map_ok, categoryLetter]
  split
  · exact ⟨'W', .inr rfl, rfl⟩
  · exact ⟨'E', .inl rfl, rfl⟩

/-- The description of an entry is a text. -/
theorem exists_describe_text (ruleId : String) (hshort : IsTextOrMissing entry "short_description")
    (hname : IsTextOrMissing entry "display_name") : ∃ s, describe ruleId entry = .text s := by
  have htext {key : String} (h : IsTextOrMissing entry key) (v : Value)
      (hv : Data.given? (entry.get? key) = some v) : ∃ s, v = .text s :=
    h v (given?_eq_some_iff.mp hv).1
  rw [describe]
  cases hgiven : Data.given? (entry.get? "short_description") with
  | some v => exact htext hshort v hgiven
  | none =>
      cases hgiven' : Data.given? (entry.get? "display_name") with
      | some v => exact htext hname v hgiven'
      | none => exact ⟨ruleId, rfl⟩

/-- The text of a code: the letter, and both numbers with two digits. -/
def codeChars (letter : Char) (checker number : Nat) : List Char :=
  letter :: (padded 2 checker ++ padded 2 number)

/-- A code tells the number of the checker and the number of the message. -/
theorem codeChars_inj {letter letter' : Char} {a b c d : Nat} (ha : a < 100) (hb : b < 100)
    (hc : c < 100) (hd : d < 100) (h : codeChars letter a b = codeChars letter' c d) :
    a = c ∧ b = d := by
  obtain ⟨hchecker, hnumber⟩ :=
    List.append_inj (List.cons.inj h).2 (by rw [length_padded, length_padded])
  exact ⟨(padded_inj ha hc).mp hchecker, (padded_inj hb hd).mp hnumber⟩

theorem messageCode_of_numbers {letter : Char} {fields : Table Value} {number : Nat}
    (hletter : category entry = .ok (String.ofList [letter]))
    (hchecker : numberUnder? "checker_id" entry = some checker)
    (hnumber : numberUnder? "number" fields = some number) :
    messageCode entry fields = .ok (String.ofList (codeChars letter checker number)) := by
  obtain ⟨s, hs, hschecker⟩ := exists_text_of_numberUnder? hchecker
  obtain ⟨t, ht, htnumber⟩ := exists_text_of_numberUnder? hnumber
  rw [messageCode, hletter, ok_bind, fieldText_of_get? hs, ok_bind, fieldText_of_get? ht, ok_bind]
  congr 1
  apply String.toList_injective
  rw [String.toList_append, String.toList_append, toList_twoDigits hschecker,
    toList_twoDigits htnumber, String.toList_ofList, String.toList_ofList, codeChars]
  rfl

theorem IsNumberedMessage.exists_symbolText {fields : Table Value} {number : Nat}
    (h : IsNumberedMessage fields number) (id : String) : ∃ s, symbolText id fields = .ok s := by
  rw [symbolText]
  split
  · next v hv =>
      obtain ⟨s, rfl⟩ := h.symbol v (given?_eq_some_iff.mp hv).1
      exact ⟨s, rfl⟩
  · exact ⟨id, rfl⟩

theorem IsNumberedMessage.exists_template? {fields : Table Value} {number : Nat}
    (h : IsNumberedMessage fields number) : ∃ s, template? fields = some (.text s) := by
  obtain ⟨s, hget, hs⟩ := h.template
  refine ⟨s, given?_eq_some_iff.mpr ⟨hget, ?_⟩⟩
  rw [Data.isGiven, TextLike.isEmpty_string, hs]
  rfl

/-- Definitions under new and distinct codes are all kept, in order. -/
theorem addDefinitions_of_distinct {definitions : List (String × MessageDefinition)}
    (h : List.Forall₂ (fun m e => definition? ruleId entry m.1 m.2 = .ok (some e))
      messages definitions)
    (t : Table MessageDefinition) (hn : (t.keys ++ definitions.map (·.1)).Nodup) :
    addDefinitions ruleId entry t messages = .ok (t ++ definitions) := by
  induction h generalizing t with
  | nil => rw [addDefinitions, List.append_nil]
  | @cons m e messages definitions hm _ ih =>
      have hfresh : e.1 ∉ t.keys := fun hk =>
        (List.nodup_append.mp hn).2.2 _ hk e.1 (by simp) rfl
      have hins : t.insert e.1 e.2 = t ++ [e] := Table.insert_of_notMem hfresh _
      have hrest := ih (t ++ [e]) (by simpa [Table.keys] using hn)
      rw [addDefinitions, hm, ok_bind]
      simp only [hins, hrest, List.append_assoc, List.singleton_append]

namespace IsNumbered

/-- Each message of a numbered rule is defined under the code of its number. -/
theorem exists_definition? (h : registry.IsNumbered ruleId checker entry messages) {letter : Char}
    (hletter : category entry = .ok (String.ofList [letter])) {m : String × Value}
    (hm : m ∈ messages) :
    ∃ number d, number < 100 ∧ messageNumber? m.2 = some number ∧
      definition? ruleId entry m.1 m.2 =
        .ok (some (String.ofList (codeChars letter checker number), d)) := by
  obtain ⟨fields, number, hfields, hnumbered⟩ := h.numbered m hm
  obtain ⟨_, _, hshort⟩ := exists_text_of_numberUnder? hnumbered.number_eq
  obtain ⟨template, htemplate⟩ := hnumbered.exists_template?
  obtain ⟨symbol, hsymbol⟩ := hnumbered.exists_symbolText m.1
  obtain ⟨description, hdescription⟩ :=
    exists_describe_text ruleId h.shortDescription h.displayName
  refine ⟨number, ⟨template, symbol, description⟩, lt_of_shortNumber? hshort, ?_, ?_⟩
  · rw [hfields]
    exact hnumbered.number_eq
  · rw [hfields, definition?_eq_some_iff]
    exact ⟨fields, _, rfl, htemplate, messageCode_of_numbers hletter h.checker_eq hnumbered.number_eq,
      hsymbol, rfl, by rw [hdescription]; rfl⟩

theorem checker_lt (h : registry.IsNumbered ruleId checker entry messages) : checker < 100 := by
  obtain ⟨_, _, hshort⟩ := exists_text_of_numberUnder? h.checker_eq
  exact lt_of_shortNumber? hshort

/-- A numbered rule has one definition for each of its messages, in order and under distinct codes.
-/
theorem exists_definitions (h : registry.IsNumbered ruleId checker entry messages) :
    ∃ definitions letter, registry.definitions ruleId = .ok definitions ∧
      List.Forall₂ (fun m e => definition? ruleId entry m.1 m.2 = .ok (some e))
        messages definitions ∧
      definitions.keys.Nodup ∧ (letter = 'E' ∨ letter = 'W') ∧
      ∀ code ∈ definitions.keys, ∃ number < 100, code.toList = codeChars letter checker number := by
  obtain ⟨letter, hEW, hletter⟩ := exists_category h.ruleType
  let Defines (m : String × Value) (e : String × MessageDefinition) : Prop :=
    definition? ruleId entry m.1 m.2 = .ok (some e) ∧ ∃ number < 100,
      messageNumber? m.2 = some number ∧ e.1.toList = codeChars letter checker number
  have hdefines : ∀ m ∈ messages, ∃ e, Defines m e := by
    intro m hm
    obtain ⟨number, d, hlt, hnumber, hd⟩ := h.exists_definition? hletter hm
    exact ⟨_, hd, number, hlt, hnumber, String.toList_ofList⟩
  obtain ⟨definitions, hall⟩ := exists_forall₂_of_forall_mem hdefines
  have hdefined : List.Forall₂ (fun m e => definition? ruleId entry m.1 m.2 = .ok (some e))
      messages definitions := hall.imp fun _ _ hd => hd.1
  -- Two messages under one code would have one number.
  have hnodup : (Table.keys definitions).Nodup := by
    refine List.pairwise_map.mpr (pairwise_of_forall₂ hall h.distinct ?_)
    rintro m e m' e' ⟨-, a, ha, hm, hea⟩ ⟨-, b, hb, hm', heb⟩ hne hcode
    rw [hcode] at hea
    obtain ⟨-, rfl⟩ := codeChars_inj h.checker_lt ha h.checker_lt hb (hea.symm.trans heb)
    exact hne (hm.trans hm'.symm)
  refine ⟨definitions, letter, ?_, hdefined, hnodup, hEW, ?_⟩
  · rw [definitions_eq_bind h.entry_eq, h.messages_eq, ok_bind]
    exact addDefinitions_of_distinct hdefined [] hnodup
  · intro code hcode
    obtain ⟨e, he, rfl⟩ := List.mem_map.mp hcode
    obtain ⟨m, -, -, number, hlt, -, htext⟩ := exists_of_mem_forall₂ hall he
    exact ⟨number, hlt, htext⟩

end IsNumbered

end Rule

/-- Numbered rules whose checkers have different numbers define each of their messages once, under
codes that tell the checker and the message: no two messages and no two rules share a code. -/
theorem codes_complete_and_distinct {registry : Registry} {ruleIds : List String}
    {checker : String → Nat} {entry messages : String → Table Value}
    (hnumbered : ∀ r ∈ ruleIds, registry.IsNumbered r (checker r) (entry r) (messages r))
    (hdistinct : (ruleIds.map checker).Nodup) :
    (∀ r ∈ ruleIds, ∃ definitions letter, registry.definitions r = .ok definitions ∧
      List.Forall₂ (fun m e => definition? r (entry r) m.1 m.2 = .ok (some e))
        (messages r) definitions ∧
      definitions.keys.Nodup ∧ (letter = 'E' ∨ letter = 'W') ∧
      ∀ code ∈ definitions.keys, ∃ number < 100,
        code.toList = letter :: (padded 2 (checker r) ++ padded 2 number)) ∧
    ruleIds.Pairwise fun r s => ∀ ds es, registry.definitions r = .ok ds →
      registry.definitions s = .ok es → ds.keys.Disjoint es.keys := by
  have hall : ∀ r ∈ ruleIds, _ := fun r hr => (hnumbered r hr).exists_definitions
  refine ⟨hall, (List.pairwise_map.mp hdistinct).imp_of_mem ?_⟩
  intro r s hr hs hne ds es hds hes code hcode hcode'
  obtain ⟨_, _, hds', -, -, -, hr'⟩ := hall r hr
  obtain ⟨_, _, hes', -, -, -, hs'⟩ := hall s hs
  obtain rfl := Except.ok.inj (hds'.symm.trans hds)
  obtain rfl := Except.ok.inj (hes'.symm.trans hes)
  obtain ⟨a, ha, hcodeR⟩ := hr' code hcode
  obtain ⟨b, hb, hcodeS⟩ := hs' code hcode'
  exact hne (codeChars_inj (hnumbered r hr).checker_lt ha (hnumbered s hs).checker_lt hb
    (hcodeR.symm.trans hcodeS)).1

/-- A message with the number. -/
def numberedMessage (number : String) : String × Value :=
  (number, .table [("number", .text number), ("message_template", .text "Text.")])

/-- An entry with the number of its checker and messages with these numbers. -/
def numberedEntry (checker : String) (numbers : List String) : Table Value :=
  [("checker_id", .text checker), ("messages", .table (numbers.map numberedMessage))]

theorem isNumbered_numberedEntry {registry : Registry} {ruleId checker : String} {n : Nat}
    {numbers : List String}
    (hentry : registry.entry? ruleId = .ok (some (numberedEntry checker numbers)))
    (hchecker : shortNumber? checker = some n)
    (hnumbers : ∀ s ∈ numbers, (shortNumber? s).isSome = true)
    (hdistinct : numbers.Pairwise fun s t => shortNumber? s ≠ shortNumber? t) :
    registry.IsNumbered ruleId n (numberedEntry checker numbers) (numbers.map numberedMessage) := by
  have hmissing {t : Table Value} {key : String} (h : t.get? key = none) : IsTextOrMissing t key := by
    intro v hv
    cases h.symm.trans hv
  exact
    { entry_eq := hentry
      messages_eq := messagesOf_eq rfl .items
      checker_eq := hchecker
      ruleType := hmissing rfl
      shortDescription := hmissing rfl
      displayName := hmissing rfl
      numbered := by
        intro m hm
        obtain ⟨number, hnumber, rfl⟩ := List.mem_map.mp hm
        obtain ⟨k, hk⟩ := Option.isSome_iff_exists.mp (hnumbers number hnumber)
        exact ⟨_, k, rfl, hk, ⟨_, rfl, rfl⟩, hmissing rfl⟩
      distinct := List.pairwise_map.mpr hdistinct }

/-- Two rules whose numbers, written one after the other as they stand, would make one code. -/
def closeNumbers : Registry :=
  ⟨.table [("aabha.a", .table (numberedEntry "5" ["1", "11"])),
    ("aabha.b", .table (numberedEntry "51" ["1"]))]⟩

theorem codes_complete_and_distinct_closeNumbers :
    ∃ ds es, closeNumbers.definitions "a" = .ok ds ∧ closeNumbers.definitions "b" = .ok es ∧
      ds.keys = ["E0501", "E0511"] ∧ es.keys = ["E5101"] ∧ ds.keys.Disjoint es.keys := by
  let checker (r : String) : Nat := if r = "a" then 5 else 51
  let numbers (r : String) : List String := if r = "a" then ["1", "11"] else ["1"]
  let text (r : String) : String := if r = "a" then "5" else "51"
  have hnumbered : ∀ r ∈ ["a", "b"], closeNumbers.IsNumbered r (checker r)
      (numberedEntry (text r) (numbers r)) ((numbers r).map numberedMessage) := by
    refine List.forall_mem_cons.mpr ⟨?_, List.forall_mem_singleton.mpr ?_⟩
    · exact isNumbered_numberedEntry rfl (by decide) (by decide) (by decide)
    · exact isNumbered_numberedEntry rfl (by decide) (by decide) (by decide)
  obtain ⟨-, hdisjoint⟩ := codes_complete_and_distinct hnumbered (by decide)
  have hab := List.rel_of_pairwise_cons hdisjoint (List.mem_singleton.mpr rfl)
  exact ⟨_, _, rfl, rfl, rfl, rfl, hab _ _ rfl rfl⟩

end MarkerLint.Registry
