import MarkerLint.Proofs.RemainingRules

/-!
# Paths that are excluded

The parts of paths that the settings exclude are handed to the host as one list of patterns. The host
reads one pattern for each of them exactly if none of them holds a comma: a comma is no character
that a pattern escapes, but it is the one that separates patterns.
-/

namespace MarkerLint

/-- The texts that the settings list under a key: those among the items of the list under it, in
order, and none if there is no list. -/
inductive Configuration.ListsTexts (c : Configuration) (key : String) : List String → Prop
  | listed {items : List Value} : c.document.get? key = .ok (some (.list items)) →
      c.ListsTexts key (items.filterMap Data.text?)
  | unlisted : (∀ items, c.document.get? key ≠ .ok (some (.list items))) → c.ListsTexts key []

theorem Configuration.ListsTexts.eq {c : Configuration} {key : String} {texts texts' : List String}
    (h : c.ListsTexts key texts) (h' : c.ListsTexts key texts') : texts = texts' := by
  cases h with
  | listed hlist =>
      cases h' with
      | listed hlist' =>
          cases hlist.symm.trans hlist'
          rfl
      | unlisted hnone => exact absurd hlist (hnone _)
  | unlisted hnone =>
      cases h' with
      | listed hlist' => exact absurd hlist' (hnone _)
      | unlisted _ => rfl

/-- The parts of paths to leave alone can be read: they are the texts that the settings list. -/
theorem Configuration.IsAccepted.exists_listsTexts {c : Configuration} (h : c.IsAccepted) :
    ∃ parts, c.ListsTexts "exclude_paths" parts ∧ c.excludedPaths = .ok parts := by
  obtain ⟨entries, htable⟩ := h.exists_table
  have hget : c.document.get? "exclude_paths" = .ok (Table.get? "exclude_paths" entries) := by
    rw [htable]
    rfl
  rw [excludedPaths, itemsOf, hget]
  cases hsetting : Table.get? "exclude_paths" entries with
  | none =>
      refine ⟨[], .unlisted fun items hlist => ?_, rfl⟩
      rw [hget, hsetting] at hlist
      cases hlist
  | some v =>
      cases v with
      | list items => exact ⟨_, .listed (hsetting ▸ hget), rfl⟩
      | _ =>
          refine ⟨[], .unlisted fun items hlist => ?_, rfl⟩
          rw [hget, hsetting] at hlist
          cases hlist

namespace Audit

/-- The pattern of the paths that hold a part. -/
def partPattern (part : String) : String :=
  ".*" ++ literalPattern part ++ ".*"

/-- A comma is no character that is escaped, and no escape adds one. -/
theorem comma_mem_literalPattern_iff {s : String} :
    ',' ∈ (literalPattern s).toList ↔ ',' ∈ s.toList := by
  have hescaped (c : Char) :
      ',' ∈ (if patternChars.contains c then ['\\', c] else [c]) ↔ c = ',' := by
    split <;> simp [eq_comm]
  rw [literalPattern, String.toList_ofList, List.mem_flatMap]
  simp only [hescaped, exists_eq_right]

theorem comma_mem_partPattern_iff {part : String} :
    ',' ∈ (partPattern part).toList ↔ ',' ∈ part.toList := by
  simp [partPattern, comma_mem_literalPattern_iff]

theorem partPattern_ne_empty (part : String) : partPattern part ≠ "" := by
  intro h
  have hlist := congrArg String.toList h
  simp [partPattern] at hlist

/-- The arguments exclude each part by a pattern of its own, in order, and say nothing of exclusion if
there are no parts. -/
structure ExcludesEach (parts arguments : List String) : Prop where
  silent : parts = [] → argumentsFor exclusionOption arguments = []
  patterns : parts ≠ [] →
    optionItems? exclusionOption arguments = some (parts.map partPattern)

section Exclusion

variable {parts : List String}

theorem exclusion_of_ne_nil (h : parts ≠ []) :
    exclusion parts =
      [exclusionOption ++ "=" ++ String.intercalate "," (parts.map partPattern)] := by
  rw [exclusion, if_neg (by rwa [List.isEmpty_iff])]
  rfl

/-- The host reads the items of each pattern. -/
theorem optionItems?_exclusion (h : parts ≠ []) {arguments : List String}
    (harguments : argumentsFor exclusionOption arguments = exclusion parts) :
    optionItems? exclusionOption arguments =
      some (parts.flatMap fun part => commaItems (partPattern part)) := by
  rw [exclusion_of_ne_nil h] at harguments
  have hne : ∀ s ∈ parts.map partPattern, s ≠ "" :=
    List.forall_mem_map.mpr fun part _ => partPattern_ne_empty part
  rw [optionItems?_of_single harguments, commaItems_intercalate hne, List.flatMap_map]

/-- The host reads the patterns themselves exactly if no part holds a comma. -/
theorem flatMap_partPattern_eq_iff :
    (parts.flatMap fun part => commaItems (partPattern part)) = parts.map partPattern ↔
      ∀ part ∈ parts, ',' ∉ part.toList := by
  have hne : ∀ s ∈ parts.map partPattern, s ≠ "" :=
    List.forall_mem_map.mpr fun part _ => partPattern_ne_empty part
  have hiff := flatMap_commaItems_eq_self_iff hne
  rw [List.flatMap_map, List.forall_mem_map] at hiff
  simp only [comma_mem_partPattern_iff] at hiff
  exact hiff

/-- The path that a command is for may itself be an argument that excludes. -/
theorem argumentsFor_call (target : String) (names parts : List String) :
    argumentsFor exclusionOption ("-m" :: "pylint" :: target :: hostOptions names parts) =
      argumentsFor exclusionOption [target] ++ exclusion parts := by
  rw [← argumentsFor_exclude names parts, argumentsFor, List.filter_cons_of_neg (by decide),
    List.filter_cons_of_neg (by decide), argumentsFor, argumentsFor, ← List.filter_append]
  rfl

/-- Each part is excluded exactly if the path of the command is no such argument and no part holds a
comma. -/
theorem excludesEach_iff {target : String} {arguments : List String}
    (harguments : argumentsFor exclusionOption arguments =
      argumentsFor exclusionOption [target] ++ exclusion parts) :
    ExcludesEach parts arguments ↔
      Text.beginsWith exclusionOption target = false ∧ ∀ part ∈ parts, ',' ∉ part.toList := by
  cases htarget : Text.beginsWith exclusionOption target with
  | true =>
      have hsingle : argumentsFor exclusionOption [target] = [target] := by
        rw [argumentsFor, List.filter_singleton, htarget]
        rfl
      rw [hsingle] at harguments
      refine ⟨fun h => ?_, fun h => by cases h.1⟩
      by_cases hparts : parts = []
      · have hsilent := h.silent hparts
        rw [harguments] at hsilent
        cases hsilent
      · -- Two arguments begin with the option, so that no list is read.
        have hpatterns := h.patterns hparts
        rw [optionItems?, harguments, exclusion_of_ne_nil hparts] at hpatterns
        cases hpatterns
  | false =>
      have hnone : argumentsFor exclusionOption [target] = [] := by
        rw [argumentsFor, List.filter_singleton, htarget]
        rfl
      rw [hnone, List.nil_append] at harguments
      constructor
      · intro h
        refine ⟨rfl, ?_⟩
        by_cases hparts : parts = []
        · rw [hparts]
          exact List.forall_mem_nil _
        · have hpatterns := h.patterns hparts
          rw [optionItems?_exclusion hparts harguments] at hpatterns
          exact flatMap_partPattern_eq_iff.mp (Option.some.inj hpatterns)
      · rintro ⟨-, hcommas⟩
        constructor
        · rintro rfl
          exact harguments
        · intro hparts
          rw [optionItems?_exclusion hparts harguments, flatMap_partPattern_eq_iff.mpr hcommas]

end Exclusion

/-- The command can be made, and its options exclude the listed parts of paths by one argument, in
which the host reads the items of each pattern. It reads one pattern for each part, and nothing else
is excluded, exactly if no part holds a comma and the path is no argument that excludes. -/
theorem excluded_one_by_one_iff {c : Configuration} (hc : c.IsAccepted)
    (interpreter target : String) (disabled : List String) :
    ∃ parts options, c.ListsTexts "exclude_paths" parts ∧
      command c interpreter target disabled =
        .ok (interpreter :: "-m" :: "pylint" :: target :: options) ∧
      (parts = [] → argumentsFor exclusionOption options = []) ∧
      (parts ≠ [] → optionItems? exclusionOption options =
        some (parts.flatMap fun part => commaItems (partPattern part))) ∧
      (ExcludesEach parts ("-m" :: "pylint" :: target :: options) ↔
        Text.beginsWith exclusionOption target = false ∧ ∀ part ∈ parts, ',' ∉ part.toList) := by
  obtain ⟨parts, hlists, hparts⟩ := hc.exists_listsTexts
  have hnames := enabledCheckers_eq hc disabled
  refine ⟨parts, _, hlists, command_eq hnames hparts interpreter target, ?_, ?_, ?_⟩
  · rintro rfl
    exact argumentsFor_exclude _ []
  · intro hne
    exact optionItems?_exclusion hne (argumentsFor_exclude _ parts)
  · exact excludesEach_iff (argumentsFor_call target _ parts)

/-- Settings that exclude paths and say nothing else. -/
def excluding (items : List Value) : Configuration :=
  ⟨.table [("exclude_paths", .list items)], .table []⟩

theorem isAccepted_excluding (items : List Value) : (excluding items).IsAccepted :=
  ⟨[("exclude_paths", .list items)], .table [], rfl⟩

theorem listsTexts_excluding (items : List Value) :
    (excluding items).ListsTexts "exclude_paths" (items.filterMap Data.text?) :=
  .listed rfl

/-- Two parts of paths, one of them with characters that are escaped, and a number between them. -/
def mixedExclusions : List Value :=
  [.text "tests/bad", .integer 3, .text "a.b (old)"]

theorem excluded_one_by_one_iff_mixedExclusions :
    (excluding mixedExclusions).IsAccepted ∧
      ∃ arguments,
        command (excluding mixedExclusions) "python" "src" ["metric-target-alignment"] =
          .ok ("python" :: arguments) ∧
        ExcludesEach ["tests/bad", "a.b (old)"] arguments ∧
        ["tests/bad", "a.b (old)"].map partPattern =
          [".*tests/bad.*", ".*a\\.b\\ \\(old\\).*"] := by
  have hc := isAccepted_excluding mixedExclusions
  obtain ⟨parts, options, hlists, hcommand, -, -, hiff⟩ :=
    excluded_one_by_one_iff hc "python" "src" ["metric-target-alignment"]
  have hparts : parts = ["tests/bad", "a.b (old)"] :=
    hlists.eq (listsTexts_excluding mixedExclusions)
  rw [hparts] at hiff
  exact ⟨hc, _, hcommand, hiff.mpr ⟨by decide, by decide⟩, by decide⟩

/-- A part of paths with a comma is handed over as two patterns, neither of which is its own. -/
theorem comma_splits_exclusion :
    (excluding [.text "a,b"]).IsAccepted ∧
      (excluding [.text "a,b"]).ListsTexts "exclude_paths" ["a,b"] ∧
      ∃ arguments,
        command (excluding [.text "a,b"]) "python" "." [] = .ok ("python" :: arguments) ∧
        optionItems? exclusionOption arguments = some [".*a", "b.*"] ∧
        ¬ ExcludesEach ["a,b"] arguments := by
  have hread : optionItems? exclusionOption
      ("-m" :: "pylint" :: "." :: hostOptions (Rule.ids.map Checker.nameOf) ["a,b"]) =
        some [".*a", "b.*"] := by decide +kernel
  refine ⟨isAccepted_excluding _, listsTexts_excluding _,
    "-m" :: "pylint" :: "." :: hostOptions (Rule.ids.map Checker.nameOf) ["a,b"],
    command_eq rfl rfl "python" ".", hread, fun h => ?_⟩
  have hpatterns := h.patterns (List.cons_ne_nil _ _)
  rw [hread] at hpatterns
  exact absurd hpatterns (by decide)

end Audit

end MarkerLint
