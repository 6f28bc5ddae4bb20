import Mathlib.Data.List.Basic
import MarkerLint.Audit.Command
import MarkerLint.Proofs.ReportLines

/-!
# Options of the host's command

An option of the host whose value is a list has the items between commas. Items that are joined by
commas are read back as they were exactly if none of them holds a comma: each comma in an item makes
one item more of it. The options of a command are what stands behind the path that it is for.
-/

namespace MarkerLint

namespace Text

variable {separator : Char}

/-- Splitting at a character is splitting at the elements equal to it. -/
theorem splitAtFrom_eq_splitOnPPrepend (part cs : List Char) :
    splitAtFrom separator part cs = cs.splitOnPPrepend (· == separator) part := by
  induction cs generalizing part with
  | nil => rfl
  | cons c rest ih => rw [splitAtFrom, List.splitOnPPrepend, ih, ih]

theorem splitAt_eq_splitOn (cs : List Char) : splitAt separator cs = cs.splitOn separator :=
  splitAtFrom_eq_splitOnPPrepend [] cs

/-- A text without the separator is its only part. -/
theorem splitAt_of_notMem {cs : List Char} (h : separator ∉ cs) : splitAt separator cs = [cs] := by
  rw [splitAt_eq_splitOn, List.splitOn_eq_splitOnP]
  refine List.splitOnP_eq_singleton fun c hc => ?_
  rw [beq_eq_false_iff_ne]
  rintro rfl
  exact h hc

theorem splitAt_append_cons (cs rest : List Char) :
    splitAt separator (cs ++ separator :: rest) = splitAt separator cs ++ splitAt separator rest := by
  simp only [splitAt_eq_splitOn, List.splitOn_eq_splitOnP]
  exact List.splitOnP_append_cons cs rest (beq_self_eq_true separator)

/-- No part holds the separator. -/
theorem notMem_of_mem_splitAtFrom {part cs piece : List Char} (hpart : separator ∉ part)
    (h : piece ∈ splitAtFrom separator part cs) : separator ∉ piece := by
  induction cs generalizing part with
  | nil =>
      obtain rfl := List.mem_singleton.mp h
      rwa [List.mem_reverse]
  | cons c rest ih =>
      rw [splitAtFrom] at h
      split at h
      · rcases List.mem_cons.mp h with rfl | h
        · rwa [List.mem_reverse]
        · exact ih List.not_mem_nil h
      · next hc =>
          refine ih ?_ h
          rw [List.mem_cons, not_or]
          exact ⟨fun hs => hc (beq_iff_eq.mpr hs.symm), hpart⟩

/-- Texts that are joined by the separator have the parts of each of them. -/
theorem splitAt_intercalate {texts : List (List Char)} (h : texts ≠ []) :
    splitAt separator ([separator].intercalate texts) = texts.flatMap (splitAt separator) := by
  induction texts with
  | nil => exact absurd rfl h
  | cons cs rest ih =>
      cases rest with
      | nil => rw [List.intercalate_singleton, List.flatMap_singleton]
      | cons next rest =>
          rw [List.intercalate_cons_cons, List.append_assoc, List.singleton_append,
            splitAt_append_cons, ih (List.cons_ne_nil _ _), ← List.flatMap_cons]

/-- Texts are the parts of each of them exactly if none of them holds the separator. -/
theorem flatMap_splitAt_eq_self_iff {texts : List (List Char)} :
    texts.flatMap (splitAt separator) = texts ↔ ∀ cs ∈ texts, separator ∉ cs := by
  constructor
  · intro h cs hcs
    rw [← h] at hcs
    obtain ⟨whole, -, hpiece⟩ := List.mem_flatMap.mp hcs
    exact notMem_of_mem_splitAtFrom List.not_mem_nil hpiece
  · intro h
    rw [List.flatMap_congr fun cs hcs => splitAt_of_notMem (h cs hcs), List.flatMap_singleton']

theorem beginsWith_append (start s t : String) :
    beginsWith start (s ++ t) = start.toList.isPrefixOf (s.toList ++ t.toList) := by
  rw [beginsWith, String.toList_append]

end Text

namespace Audit

/-- The items of a list that is written as the value of an option. Nothing written is no item. -/
def commaItems (value : String) : List String :=
  if value.isEmpty then [] else (Text.splitAt ',' value.toList).map String.ofList

/-- The arguments that begin with the name of an option. -/
def argumentsFor (option : String) (arguments : List String) : List String :=
  arguments.filter (Text.beginsWith option)

/-- The items that the arguments give an option, if a single argument begins with its name. -/
def optionItems? (option : String) (arguments : List String) : Option (List String) :=
  match argumentsFor option arguments with
  | [argument] =>
      (Text.after? (option ++ "=").toList argument.toList).map fun value =>
        commaItems (String.ofList value)
  | _ => none

section Items

variable {items : List String}

theorem commaItems_of_ne_empty {value : String} (h : value ≠ "") :
    commaItems value = (Text.splitAt ',' value.toList).map String.ofList := by
  rw [commaItems, if_neg (by rwa [String.isEmpty_iff])]

theorem flatMap_commaItems (h : ∀ s ∈ items, s ≠ "") :
    items.flatMap commaItems =
      ((items.map String.toList).flatMap (Text.splitAt ',')).map String.ofList := by
  rw [List.map_flatMap, List.flatMap_map]
  exact List.flatMap_congr fun s hs => commaItems_of_ne_empty (h s hs)

theorem intercalate_ne_empty {first : String} (h : first ≠ "") (rest : List String) :
    String.intercalate "," (first :: rest) ≠ "" := by
  cases rest with
  | nil => rwa [String.intercalate_singleton]
  | cons next rest =>
      rw [String.intercalate_cons_cons]
      intro hempty
      have hlist := congrArg String.toList hempty
      simp at hlist

/-- Items that are joined by commas are read as the items of each of them. -/
theorem commaItems_intercalate (h : ∀ s ∈ items, s ≠ "") :
    commaItems (String.intercalate "," items) = items.flatMap commaItems := by
  cases items with
  | nil => rfl
  | cons first rest =>
      have hfirst := h first List.mem_cons_self
      rw [commaItems_of_ne_empty (intercalate_ne_empty hfirst rest), flatMap_commaItems h,
        String.toList_intercalate, ← Text.splitAt_intercalate (by simp)]
      rfl

/-- They are read back as they were exactly if none of them holds a comma. -/
theorem flatMap_commaItems_eq_self_iff (h : ∀ s ∈ items, s ≠ "") :
    items.flatMap commaItems = items ↔ ∀ s ∈ items, ',' ∉ s.toList := by
  have hback : (items.map String.toList).map String.ofList = items := by simp
  have hinj : Function.Injective (List.map String.ofList) :=
    List.map_injective_iff.mpr fun _ _ => String.ofList_injective
  calc
    items.flatMap commaItems = items ↔
        (items.map String.toList).flatMap (Text.splitAt ',') = items.map String.toList := by
      rw [flatMap_commaItems h]
      nth_rewrite 2 [← hback]
      exact hinj.eq_iff
    _ ↔ ∀ s ∈ items, ',' ∉ s.toList := by
      rw [Text.flatMap_splitAt_eq_self_iff, List.forall_mem_map]

end Items

/-- An option that one argument gives a value has the items of the value. -/
theorem optionItems?_of_single {option value : String} {arguments : List String}
    (h : argumentsFor option arguments = [option ++ "=" ++ value]) :
    optionItems? option arguments = some (commaItems value) := by
  have hvalue : Text.after? (option ++ "=").toList (option ++ "=" ++ value).toList =
      some value.toList := Text.after?_eq_some_iff.mpr String.toList_append
  rw [optionItems?, h]
  dsimp only
  rw [hvalue, Option.map_some, String.ofList_toList]

section Command

/-- The option that enables checkers. -/
def enableOption : String := "--enable"

/-- The option that excludes paths. -/
def exclusionOption : String := "--ignore-paths"

/-- The beginning of a command: the host is called for a path. -/
def hostCall (interpreter target : String) : List String :=
  [interpreter, "-m", "pylint", target]

/-- The options before the enabled checkers. -/
def openingOptions : List String :=
  ["--load-plugins=aabha_linter", "--disable=all"]

/-- The options between the enabled checkers and the excluded paths. -/
def reportOptions : List String :=
  ["--msg-template=" ++ reportLayout, "--reports=n", "--score=n"]

/-- The options of a command that enables checkers and excludes parts of paths. -/
def hostOptions (names parts : List String) : List String :=
  openingOptions ++
    (["--enable=" ++ String.intercalate "," names] ++ (reportOptions ++ exclusion parts))

theorem command_eq {c : Configuration} {disabled names parts : List String}
    (hnames : enabledCheckers c disabled = .ok names) (hparts : c.excludedPaths = .ok parts)
    (interpreter target : String) :
    command c interpreter target disabled =
      .ok (hostCall interpreter target ++ hostOptions names parts) := by
  simp only [command, hnames, hparts, ok_bind]
  rfl

theorem argumentsFor_exclusion {option : String} {excludes : Bool}
    (h : ∀ value, Text.beginsWith option ("--ignore-paths=" ++ value) = excludes)
    (parts : List String) :
    argumentsFor option (exclusion parts) = if excludes then exclusion parts else [] := by
  rw [exclusion]
  split
  · cases excludes <;> rfl
  · rw [argumentsFor, List.filter_singleton, h]
    cases excludes <;> rfl

/-- Of the options, those that begin with a name are told by their own beginnings, whatever their
values are. -/
theorem argumentsFor_hostOptions {option : String} {enables excludes : Bool}
    (hopening : argumentsFor option openingOptions = [])
    (hreport : argumentsFor option reportOptions = [])
    (henables : ∀ value, Text.beginsWith option ("--enable=" ++ value) = enables)
    (hexcludes : ∀ value, Text.beginsWith option ("--ignore-paths=" ++ value) = excludes)
    (names parts : List String) :
    argumentsFor option (hostOptions names parts) =
      (if enables then ["--enable=" ++ String.intercalate "," names] else []) ++
        if excludes then exclusion parts else [] := by
  have henable : argumentsFor option ["--enable=" ++ String.intercalate "," names] =
      if enables then ["--enable=" ++ String.intercalate "," names] else [] := by
    rw [argumentsFor, List.filter_singleton, henables]
    cases enables <;> rfl
  have hexclusion := argumentsFor_exclusion hexcludes parts
  rw [argumentsFor] at hopening hreport henable hexclusion ⊢
  rw [hostOptions, List.filter_append, List.filter_append, List.filter_append, hopening, henable,
    hreport, hexclusion, List.nil_append, List.nil_append]

/-- The options enable the checkers once. -/
theorem argumentsFor_enable (names parts : List String) :
    argumentsFor enableOption (hostOptions names parts) =
      [enableOption ++ "=" ++ String.intercalate "," names] := by
  have henables (value : String) : Text.beginsWith enableOption ("--enable=" ++ value) = true :=
    Text.beginsWith_append _ _ value
  have hexcludes (value : String) :
      Text.beginsWith enableOption ("--ignore-paths=" ++ value) = false :=
    Text.beginsWith_append _ _ value
  rw [argumentsFor_hostOptions (by decide) (by decide) henables hexcludes]
  rfl

/-- The options exclude parts of paths once, if there are any. -/
theorem argumentsFor_exclude (names parts : List String) :
    argumentsFor exclusionOption (hostOptions names parts) = exclusion parts := by
  have henables (value : String) :
      Text.beginsWith exclusionOption ("--enable=" ++ value) = false :=
    Text.beginsWith_append _ _ value
  have hexcludes (value : String) :
      Text.beginsWith exclusionOption ("--ignore-paths=" ++ value) = true :=
    Text.beginsWith_append _ _ value
  rw [argumentsFor_hostOptions (by decide) (by decide) henables hexcludes]
  rfl

end Command

end Audit

end MarkerLint
