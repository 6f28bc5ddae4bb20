import MarkerLint.CommandLine
import MarkerLint.Proofs.Containment
import MarkerLint.Proofs.StyledText

/-!
# The listing of the rules

The rules are listed in the order of the catalog, each with a title that says whether it is enabled
and with indented lines below. Titles tell apart the rules and what is said of them, so the listing
shows a rule in one way only.
-/

namespace MarkerLint

theorem Audit.lines_linesText {texts : List String} (h : ∀ s ∈ texts, Text.IsPlain s) :
    Text.lines (linesText texts).toList = texts.map String.toList := by
  have hplain : (texts.map fun s => Text.dropEscapes s ++ "\n") = texts.map (· ++ "\n") :=
    List.map_congr_left fun s hs => by rw [(h s hs).shows.dropEscapes_eq]
  rw [linesText, hplain, Text.lines_join fun s hs c hc => (h s hs c hc).1]

namespace CommandLine

/-- The title of a rule in the listing. -/
def ruleTitle (rule : Rule) (enabled : Bool) : String :=
  rule.id ++ " [" ++ rule.type.name ++ "] (" ++ (if enabled then "enabled" else "disabled") ++ ")"

/-- The output shows the rule as enabled, or as disabled: the title is one of its lines. -/
def ShowsRule (output : String) (rule : Rule) (enabled : Bool) : Prop :=
  (ruleTitle rule enabled).toList ∈ Text.lines output.toList

section Titles

variable {rule other : Rule} {a b : Bool}

theorem isPlain_ruleTitle (h : rule ∈ Rule.catalog) : Text.IsPlain (ruleTitle rule a) := by
  have hid : Text.IsPlain rule.id := by
    have hall : ∀ r ∈ Rule.catalog,
        (r.id.toList.all fun c => !Text.isLineBreak c && c != Text.escapeMark) = true := by
      decide +kernel
    exact Text.isPlain_of_all (hall rule h)
  have htype : Text.IsPlain rule.type.name := by
    cases rule.type <;> exact Text.isPlain_of_all (by decide +kernel)
  have hstate : Text.IsPlain (if a then "enabled" else "disabled") := by
    cases a <;> exact Text.isPlain_of_all (by decide +kernel)
  have hopening : Text.IsPlain " [" := Text.isPlain_of_all (by decide +kernel)
  have hmiddle : Text.IsPlain "] (" := Text.isPlain_of_all (by decide +kernel)
  have hclosing : Text.IsPlain ")" := Text.isPlain_of_all (by decide +kernel)
  exact ((((hid.append hopening).append htype).append hmiddle).append hstate).append hclosing

theorem blank_notMem_id (h : rule ∈ Rule.catalog) : ' ' ∉ rule.id.toList := by
  have hall : ∀ r ∈ Rule.catalog, ' ' ∉ r.id.toList := by decide
  exact hall rule h

/-- The id of a rule ends at the first blank of its title. -/
theorem toList_ruleTitle (rule : Rule) (a : Bool) :
    (ruleTitle rule a).toList = rule.id.toList ++ ' ' ::
      ("[" ++ rule.type.name ++ "] (" ++ (if a then "enabled" else "disabled") ++ ")").toList := by
  simp [ruleTitle]

theorem ruleTitle_inj (h : rule ∈ Rule.catalog) (hother : other ∈ Rule.catalog)
    (heq : ruleTitle rule a = ruleTitle other b) : rule = other ∧ a = b := by
  have hlists := congrArg String.toList heq
  rw [toList_ruleTitle, toList_ruleTitle] at hlists
  obtain ⟨hid, hrest⟩ :=
    Text.eq_of_append_cons_eq (blank_notMem_id h) (blank_notMem_id hother) hlists
  obtain rfl := Inspection.eq_of_id_eq h hother (String.toList_inj.mp hid)
  refine ⟨rfl, ?_⟩
  cases a <;> cases b <;> simp_all

end Titles

section Details

/-- A line about a rule below its title: it is indented and printed as it stands. -/
structure IsDetail (line : String) : Prop where
  indented : line.toList.head? = some ' '
  isPlain : Text.IsPlain line

theorem IsDetail.ne_ruleTitle {line : String} (h : IsDetail line) {rule : Rule}
    (hr : rule ∈ Rule.catalog) (a : Bool) : line ≠ ruleTitle rule a := by
  rintro rfl
  have hblank := h.indented
  rw [toList_ruleTitle] at hblank
  cases hid : rule.id.toList with
  | nil =>
      have hall : ∀ r ∈ Rule.catalog, r.id.toList ≠ [] := by decide
      exact hall rule hr hid
  | cons c rest =>
      rw [hid, List.cons_append, List.head?_cons, Option.some.injEq] at hblank
      apply blank_notMem_id hr
      rw [hid, hblank]
      exact List.mem_cons_self

theorem isDetail_of_isPlain {text : String} (h : Text.IsPlain text) : IsDetail ("  " ++ text) where
  indented := by simp
  isPlain := Text.IsPlain.append (Text.isPlain_of_all (by decide +kernel)) h

/-- The lines about messages are details if the codes and symbols are printed as they stand. -/
theorem isDetail_of_mem_messageLines {definitions : Table MessageDefinition}
    (h : ∀ e ∈ definitions, Text.IsPlain e.1 ∧ Text.IsPlain e.2.symbol) {line : String}
    (hline : line ∈ messageLines definitions) : IsDetail line := by
  rw [messageLines] at hline
  split at hline
  · obtain rfl := List.mem_singleton.mp hline
    exact ⟨by decide, Text.isPlain_of_all (by decide +kernel)⟩
  · obtain ⟨e, he, rfl⟩ := List.mem_map.mp hline
    obtain ⟨hcode, hsymbol⟩ := h e (List.mem_mergeSort.mp he)
    have hblank : Text.IsPlain " " := Text.isPlain_of_all (by decide +kernel)
    rw [String.append_assoc, String.append_assoc]
    exact isDetail_of_isPlain (hcode.append (hblank.append hsymbol))

/-- The codes and symbols of the packaged registry are printed as they stand. -/
theorem isPlain_of_mem_packagedEntries {e : Registry.PackagedEntry}
    (he : e ∈ Registry.packagedEntries) {m : Registry.PackagedMessage} (hm : m ∈ e.messages) :
    Text.IsPlain (e.code m) ∧ Text.IsPlain m.symbol := by
  have hall : ∀ e ∈ Registry.packagedEntries, ∀ m ∈ e.messages,
      ((e.code m).toList ++ m.symbol.toList).all
        (fun c => !Text.isLineBreak c && c != Text.escapeMark) = true := by
    decide +kernel
  have hboth := hall e he m hm
  rw [List.all_append, Bool.and_eq_true] at hboth
  exact ⟨Text.isPlain_of_all hboth.1, Text.isPlain_of_all hboth.2⟩

/-- A rule of the catalog is listed with its title and with details that do not depend on the
configuration. -/
theorem exists_ruleLines {rule : Rule} (hr : rule ∈ Rule.catalog) :
    ∃ details, (∀ line ∈ details, IsDetail line) ∧
      ∀ (c : Configuration) (enabled : Bool), c.isEnabled rule.id = .ok enabled →
        ruleLines c rule = .ok (ruleTitle rule enabled :: details) := by
  obtain ⟨e, he, hid, -, -⟩ := Registry.exists_packagedEntry hr
  have hdefinitions :=
    Registry.definitions_of_entry (Registry.packaged_entry_eq he) (Registry.isSound_of_mem he)
  rw [hid] at hdefinitions
  refine ⟨("  " ++ rule.description) :: messageLines (e.messages.map e.definition), ?_, ?_⟩
  · have hdescription : ∀ r ∈ Rule.catalog,
        (r.description.toList.all fun c => !Text.isLineBreak c && c != Text.escapeMark) = true := by
      decide +kernel
    refine List.forall_mem_cons.mpr ⟨?_, fun line hline => ?_⟩
    · exact isDetail_of_isPlain (Text.isPlain_of_all (hdescription rule hr))
    · refine isDetail_of_mem_messageLines (List.forall_mem_map.mpr fun m hm => ?_) hline
      exact isPlain_of_mem_packagedEntries he hm
  · intro c enabled henabled
    simp only [ruleLines, henabled, hdefinitions, ok_bind]
    rfl

end Details

section Listing

variable {c : Configuration} (on : String → Bool)
  (hon : ∀ rule ∈ Rule.catalog, c.isEnabled rule.id = .ok (on rule.id))

include hon

/-- The rules are listed one after the other: the lines are their titles and details. -/
theorem exists_rulesLines {rules : List Rule} (hrules : rules ⊆ Rule.catalog) :
    ∃ lines, rulesLines c rules = .ok lines ∧
      (∀ rule ∈ rules, ruleTitle rule (on rule.id) ∈ lines) ∧
      ∀ line ∈ lines, IsDetail line ∨ ∃ rule ∈ rules, line = ruleTitle rule (on rule.id) := by
  induction rules with
  | nil => exact ⟨[], rfl, List.forall_mem_nil _, List.forall_mem_nil _⟩
  | cons rule rest ih =>
      obtain ⟨hr, hrest⟩ := List.cons_subset.mp hrules
      obtain ⟨details, hdetails, hlines⟩ := exists_ruleLines hr
      obtain ⟨others, hothers, htitles, hkinds⟩ := ih hrest
      refine ⟨ruleTitle rule (on rule.id) :: details ++ others, ?_, ?_, ?_⟩
      · rw [rulesLines, hlines c _ (hon rule hr), hothers]
        rfl
      · refine List.forall_mem_cons.mpr ⟨List.mem_cons_self, fun s hs => ?_⟩
        exact List.mem_append_right _ (htitles s hs)
      · intro line hline
        rw [List.mem_append, List.mem_cons] at hline
        rcases hline with (rfl | hline) | hline
        · exact .inr ⟨rule, List.mem_cons_self, rfl⟩
        · exact .inl (hdetails line hline)
        · rcases hkinds line hline with hdetail | ⟨s, hs, hline⟩
          · exact .inl hdetail
          · exact .inr ⟨s, List.mem_cons_of_mem _ hs, hline⟩

/-- The listing can be printed, and it shows every rule in its state and in no other. -/
theorem exists_rules_showsRule :
    ∃ done, rules c = .ok done ∧ ∀ rule ∈ Rule.catalog, ∀ enabled,
      ShowsRule done.value.output rule enabled ↔ on rule.id = enabled := by
  obtain ⟨lines, hlines, htitles, hkinds⟩ := exists_rulesLines on hon (List.Subset.refl _)
  refine ⟨⟨printed (Audit.linesText lines), []⟩, by rw [rules, hlines]; rfl, ?_⟩
  have hplain : ∀ line ∈ lines, Text.IsPlain line := by
    intro line hline
    rcases hkinds line hline with hdetail | ⟨rule, hr, rfl⟩
    · exact hdetail.isPlain
    · exact isPlain_ruleTitle hr
  intro rule hr enabled
  have hshown : ShowsRule (Audit.linesText lines) rule enabled ↔ ruleTitle rule enabled ∈ lines := by
    rw [ShowsRule, Audit.lines_linesText hplain]
    exact List.mem_map_of_injective fun _ _ => String.toList_inj.mp
  refine hshown.trans ⟨fun htitle => ?_, ?_⟩
  · rcases hkinds _ htitle with hdetail | ⟨other, hother, htitle⟩
    · exact absurd rfl (hdetail.ne_ruleTitle hr enabled)
    · obtain ⟨rfl, hstate⟩ := ruleTitle_inj hr hother htitle
      exact hstate.symm
  · rintro rfl
    exact htitles rule hr

end Listing

end CommandLine

end MarkerLint
