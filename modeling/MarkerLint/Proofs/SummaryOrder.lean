import MarkerLint.Proofs.SummarySheet

/-!
# The summary and the order of messages

The summary depends on which messages there are, not on the order in which they come, provided that
messages with one code have one symbol and none comes from a directory with the name of the symbol.
The lines stand in order of rank and the columns in ascending order. Calls that bring no message
change no later answer of the reporter.
-/

namespace MarkerLint.Summary

section Order

variable {messages messages' : List Message}

/-- Messages with one code have one symbol. -/
def HasOneSymbolPerCode (messages : List Message) : Prop :=
  ∀ m ∈ messages, ∀ m' ∈ messages, m.code = m'.code → m.symbol = m'.symbol

instance (messages : List Message) : Decidable (HasOneSymbolPerCode messages) :=
  inferInstanceAs (Decidable (∀ m ∈ messages, ∀ m' ∈ messages, m.code = m'.code → m.symbol = m'.symbol))

theorem directories_eq_of_perm (hperm : messages.Perm messages') :
    directories messages = directories messages' := by
  apply (Text.pairwise_ascending _).eq_of_mem_iff (Text.pairwise_ascending _)
  intro d
  rw [Text.mem_ascending, Text.mem_ascending, (hperm.map _).mem_iff]

theorem inDirectory_eq_of_perm (hperm : messages.Perm messages') (d : String) :
    inDirectory d messages = inDirectory d messages' :=
  hperm.countP_eq _

theorem shownTotal_eq_of_perm (hperm : messages.Perm messages') (c : String) :
    shownTotal c messages = shownTotal c messages' := by
  have hcode : (ofCode c messages).Perm (ofCode c messages') := hperm.filter _
  rw [shownTotal, shownTotal, hcode.length_eq, inDirectory_eq_of_perm hcode]

theorem shownCount_eq_of_perm (hperm : messages.Perm messages') (c d : String) :
    shownCount c messages d = shownCount c messages' d := by
  have hcode : (ofCode c messages).Perm (ofCode c messages') := hperm.filter _
  rw [shownCount, shownCount, shownTotal_eq_of_perm hperm, inDirectory_eq_of_perm hcode]

/-- The symbol that is shown for the code of a message is that of the message. -/
theorem HasOneSymbolPerCode.shownSymbol_eq (h : HasOneSymbolPerCode messages) {m : Message}
    (hm : m ∈ messages) : shownSymbol m.code messages = m.symbol := by
  have hmem : m ∈ ofCode m.code messages := List.mem_filter.mpr ⟨hm, by simp⟩
  rw [shownSymbol]
  cases hlast : (ofCode m.code messages).getLast? with
  | none => exact absurd hmem (by simp [List.getLast?_eq_none_iff.mp hlast])
  | some last =>
      obtain ⟨hlastMem, hcode⟩ := List.mem_filter.mp (List.mem_of_getLast? hlast)
      exact h last hlastMem m hm (by simpa using hcode)

/-- The line of a code is the same for the same messages in another order. -/
theorem shownLine_eq_of_perm (hperm : messages.Perm messages') (h : HasOneSymbolPerCode messages)
    {c : String} (hc : c ∈ messages.map (·.code)) :
    shownLine messages c = shownLine messages' c := by
  obtain ⟨m, hm, rfl⟩ := List.mem_map.mp hc
  have h' : HasOneSymbolPerCode messages' := fun a ha b hb =>
    h a (hperm.mem_iff.mpr ha) b (hperm.mem_iff.mpr hb)
  simp only [shownLine, h.shownSymbol_eq hm, h'.shownSymbol_eq (hperm.mem_iff.mp hm),
    shownTotal_eq_of_perm hperm, directories_eq_of_perm hperm, shownCount_eq_of_perm hperm]

/-- The lines are the same, in the same order. -/
theorem IsRanking.eq_of_perm {lines lines' : List Line} (hlines : IsRanking messages lines)
    (hlines' : IsRanking messages' lines') (hperm : messages.Perm messages')
    (h : HasOneSymbolPerCode messages) : lines = lines' := by
  have hcodes (c : String) : c ∈ messages.map (·.code) ↔ c ∈ messages'.map (·.code) :=
    (hperm.map _).mem_iff
  apply hlines.ranked.eq_of_mem_iff hlines'.ranked
  intro l
  rw [hlines.mem_lines, hlines'.mem_lines]
  constructor
  · rintro ⟨c, hc, rfl⟩
    exact ⟨c, (hcodes c).mp hc, shownLine_eq_of_perm hperm h hc⟩
  · rintro ⟨c, hc, rfl⟩
    have hc := (hcodes c).mpr hc
    exact ⟨c, hc, (shownLine_eq_of_perm hperm h hc).symm⟩

theorem IsUnnamed.of_perm (h : IsUnnamed messages) (hperm : messages.Perm messages') :
    IsUnnamed messages' :=
  fun m hm => h m (hperm.mem_iff.mpr hm)

/-- So is the sheet, or the reason why there is none. -/
theorem sheet_eq_of_perm (hperm : messages.Perm messages') (h : HasOneSymbolPerCode messages)
    (hnames : IsUnnamed messages) : sheet messages = sheet messages' := by
  obtain ⟨lines, hlines, hsheet⟩ := hnames.exists_sheet_eq
  obtain ⟨lines', hlines', hsheet'⟩ := (hnames.of_perm hperm).exists_sheet_eq
  rw [hsheet, hsheet', hlines.eq_of_perm hlines' hperm h, directories_eq_of_perm hperm]

theorem render_eq_of_perm (hperm : messages.Perm messages') (h : HasOneSymbolPerCode messages)
    (hnames : IsUnnamed messages) : render messages = render messages' := by
  have hempty : messages.isEmpty = messages'.isEmpty := by
    rw [Bool.eq_iff_iff, List.isEmpty_iff, List.isEmpty_iff]
    constructor
    · rintro rfl
      exact hperm.nil_eq.symm
    · rintro rfl
      exact hperm.eq_nil
  rw [render, render, sheet_eq_of_perm hperm h hnames, hempty]

end Order

section Calls

/-- The message that a call brings. -/
def Call.message? : Call → Option Message
  | .handle m => some m
  | .display => none
  | .close => none

/-- The messages that calls bring, in order. -/
def handled (calls : List Call) : List Message :=
  calls.filterMap Call.message?

/-- The answers to calls that follow earlier ones. -/
def answersAfter (before after : List Call) : List Answer :=
  (answers (before ++ after)).drop before.length

theorem length_answersFrom (messages : List Message) (calls : List Call) :
    (answersFrom messages calls).length = calls.length := by
  induction calls generalizing messages with
  | nil => rfl
  | cons c rest ih => rw [answersFrom, List.length_cons, ih, List.length_cons]

/-- A call adds the message that it brings. -/
theorem Call.collect_append_handled (messages : List Message) (c : Call) (rest : List Call) :
    c.collect messages ++ handled rest = messages ++ handled (c :: rest) := by
  cases c <;> simp [Call.collect, handled, Call.message?, List.filterMap_cons]

/-- Later answers depend on the earlier calls through the messages that these bring. -/
theorem answersFrom_append (messages : List Message) (before after : List Call) :
    answersFrom messages (before ++ after) =
      answersFrom messages before ++ answersFrom (messages ++ handled before) after := by
  induction before generalizing messages with
  | nil => simp [answersFrom, handled]
  | cons c rest ih =>
      rw [List.cons_append, answersFrom, answersFrom, ih, Call.collect_append_handled,
        List.cons_append]

theorem answersAfter_eq (before after : List Call) :
    answersAfter before after = answersFrom (handled before) after := by
  rw [answersAfter, answers, answersFrom_append, List.drop_left' (length_answersFrom [] before),
    List.nil_append]

/-- Calls that bring no message change no later answer. -/
theorem answersAfter_append_of_quiet (before : List Call) {quiet : List Call}
    (h : ∀ c ∈ quiet, c = .display ∨ c = .close) (after : List Call) :
    answersAfter (before ++ quiet) after = answersAfter before after := by
  have hnone : handled quiet = [] := by
    rw [handled, List.filterMap_eq_nil_iff]
    intro c hc
    rcases h c hc with rfl | rfl <;> rfl
  have happend : handled (before ++ quiet) = handled before ++ handled quiet :=
    List.filterMap_append
  rw [answersAfter_eq, answersAfter_eq, happend, hnone, List.append_nil]

end Calls

/-- The sheet has one line for each code of the messages, in order of rank, and one column for each
directory, in ascending order. -/
structure Sheet.IsArranged (s : Sheet) (messages : List Message) : Prop where
  ranked : s.lines.Pairwise Line.Outranks
  nodup_codes : (s.lines.map (·.code)).Nodup
  mem_codes : ∀ c, c ∈ s.lines.map (·.code) ↔ c ∈ messages.map (·.code)
  columns_ascending : s.columns.Pairwise (· < ·)
  mem_columns : ∀ d, d ∈ s.columns ↔ d ∈ messages.map fun m => markerDirectory m.path

theorem IsUnnamed.isArranged {messages : List Message} (h : IsUnnamed messages) {s : Sheet}
    (hs : sheet messages = .ok s) : s.IsArranged messages := by
  obtain ⟨lines, hlines, hsheet⟩ := h.exists_sheet_eq
  rw [hsheet] at hs
  obtain ⟨hcolumns, rfl, -⟩ := sheetOf_eq_ok_iff.mp hs
  constructor
  · exact hlines.ranked
  · exact hlines.nodup_codes
  · exact fun c => hlines.mem_codes
  · rw [hcolumns]
    exact Text.pairwise_ascending _
  · intro d
    rw [hcolumns, mem_directories]

/-- The summary does not depend on the order of messages. Calls that bring the same messages in
another order are closed with the same answer: the number of messages and their summary, which has a
text exactly if the sum of all totals can be written. Its printed rows stand in order of rank, one
for each code, and its columns in ascending order, one for each directory. To display and to close
change no later answer, wherever such calls stand. -/
theorem summary_ignores_order {calls calls' : List Call}
    (hperm : (handled calls).Perm (handled calls')) (hsymbols : HasOneSymbolPerCode (handled calls))
    (hnames : ∀ m ∈ handled calls, markerDirectory m.path ≠ symbolKey) :
    answersAfter calls [.close] = answersAfter calls' [.close] ∧
      answersAfter calls [.close] = [⟨(handled calls).length, render (handled calls)⟩] ∧
      ((∃ text, render (handled calls) = .ok text) ↔
        (handled calls).length + inDirectory totalKey (handled calls) < 10 ^ digitLimit) ∧
      (handled calls ≠ [] → ∀ text, render (handled calls) = .ok text →
        ∃ s printed, sheet (handled calls) = .ok s ∧
          text = String.join (printed.map (· ++ "\n")) ∧ s.IsPrintedAs printed ∧
          s.IsArranged (handled calls)) ∧
      ∀ before quiet after, (∀ c ∈ quiet, c = .display ∨ c = .close) →
        answersAfter (before ++ quiet) after = answersAfter before after := by
  have hclose (calls : List Call) : answersAfter calls [.close] =
      [⟨(handled calls).length, render (handled calls)⟩] :=
    answersAfter_eq calls [.close]
  refine ⟨?_, hclose calls, exists_render_iff hnames, ?_, ?_⟩
  · rw [hclose, hclose, hperm.length_eq, render_eq_of_perm hperm hsymbols hnames]
  · intro hne text htext
    obtain ⟨s, printed, hs, -, hprinted, htext⟩ := exists_isPrintedAs_of_render hne htext
    exact ⟨s, printed, hs, htext, hprinted, IsUnnamed.isArranged hnames hs⟩
  · exact fun before quiet after hquiet => answersAfter_append_of_quiet before hquiet after

/-- Three messages, with calls between them that bring none. -/
def interrupted : List Call :=
  [.handle ⟨"W5101", "automated-action-long-duration", "models/actions/A.py"⟩, .display,
    .handle ⟨"E5201", "missing-validation-for-precondition", "models/total/C.py"⟩, .close,
    .handle ⟨"W5101", "automated-action-long-duration", "B.py"⟩]

theorem summary_ignores_order_interrupted :
    let others := interrupted.reverse
    (handled interrupted).Perm (handled others) ∧ HasOneSymbolPerCode (handled interrupted) ∧
      (∀ m ∈ handled interrupted, markerDirectory m.path ≠ symbolKey) ∧
      answersAfter interrupted [.close] = answersAfter others [.close] ∧
      ∃ text, render (handled interrupted) = .ok text := by
  have hperm : (handled interrupted).Perm (handled interrupted.reverse) := by
    rw [handled, handled, List.filterMap_reverse]
    exact (List.reverse_perm _).symm
  have hsymbols : HasOneSymbolPerCode (handled interrupted) := by decide +kernel
  have hnames : ∀ m ∈ handled interrupted, markerDirectory m.path ≠ symbolKey := by decide +kernel
  obtain ⟨hanswers, -, htext, -⟩ := summary_ignores_order hperm hsymbols hnames
  refine ⟨hperm, hsymbols, hnames, hanswers, htext.mpr ?_⟩
  calc (handled interrupted).length + inDirectory totalKey (handled interrupted)
    _ < 10 ^ 1 := by decide +kernel
    _ ≤ 10 ^ digitLimit := Nat.pow_le_pow_right (by decide) (by decide)

end MarkerLint.Summary
