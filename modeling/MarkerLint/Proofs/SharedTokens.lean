import Mathlib.Data.List.Infix
import MarkerLint.Proofs.LowerBlanks
import MarkerLint.Proofs.PreconditionReports

/-!
# What a contradiction rests on

A validation rule that contradicts a precondition shares a token with it: the first token of one key
occurs in the other. The first token of a key is its first word, and there is one unless the key is
empty. The key of a blank precondition is empty, and an empty text occurs everywhere, so a blank
precondition is contradicted by every rule that speaks of "not".
-/

namespace MarkerLint.Contradiction

open Text Rule

/-- The text begins with the token: it is the token, alone or with a space after it. -/
def BeginsWith (token key : CodeText) : Prop :=
  key = token ∨ ∃ rest, key = token ++ .char ' ' :: rest

/-- A token of one or more characters, none of them blank, begins one of the keys and occurs in the
other. -/
def ShareToken (key key' : CodeText) : Prop :=
  ∃ token, IsWord token ∧
    (BeginsWith token key ∧ token <:+: key' ∨ BeginsWith token key' ∧ token <:+: key)

theorem occursIn_iff {part cs : CodeText} : occursIn part cs = true ↔ part <:+: cs := by
  induction cs with
  | nil => simp [occursIn]
  | cons c rest ih =>
      rw [occursIn, Bool.or_eq_true, List.isPrefixOf_iff_prefix, ih, List.infix_cons_iff]

section FirstToken

variable {modals : List String} {ws : List CodeText} {w cs : CodeText}

theorem beginsWith_spaced (w : CodeText) (ws : List CodeText) :
    BeginsWith w (spaced (w :: ws)) := by
  cases ws with
  | nil => exact .inl (by rw [spaced, List.intercalate_singleton])
  | cons v ws =>
      refine .inr ⟨spaced (v :: ws), ?_⟩
      rw [spaced, List.intercalate_cons_cons, List.append_assoc, List.singleton_append, spaced]

/-- The first token of a text that begins with a word is this word. -/
theorem BeginsWith.firstToken_eq (h : BeginsWith w cs) (hw : IsWord w) : firstToken cs = w := by
  have hspaceless : ∀ c ∈ w, (c != .char ' ') = true := by
    intro c hc
    rw [bne_iff_ne]
    rintro rfl
    cases (hw.solid (.char ' ') hc).symm.trans rfl
  rw [firstToken]
  rcases h with rfl | ⟨rest, rfl⟩
  · exact List.takeWhile_eq_self_iff.mpr hspaceless
  · rw [List.takeWhile_append_of_pos hspaceless, List.takeWhile_cons, if_neg (by simp),
      List.append_nil]

/-- Dropping a modal word leaves a text that is laid out in words, none exactly if there was none. -/
theorem exists_laidOut_dropModal (hmodals : ArePrefixFree modals) (h : LaidOut ws cs) :
    ∃ ws', LaidOut ws' (dropModal modals cs) ∧ (ws' = [] ↔ ws = []) := by
  by_cases hsame : dropModal modals cs = cs
  · exact ⟨ws, hsame.symm ▸ h, Iff.rfl⟩
  · obtain ⟨subject, modal, hopens⟩ := exists_opens_of_dropModal_ne hmodals h hsame
    obtain ⟨tail, rest, rfl, hlaid⟩ := hopens.laidOut_dropModal hmodals h
    exact ⟨_, hlaid, by simp⟩

/-- A key without words is empty, and any other one begins with its first token, which is a word. -/
theorem key_cases (hmodals : ArePrefixFree modals) (h : LaidOut ws cs) :
    (ws = [] ∧ collapse (dropModal modals cs) = []) ∨
      (ws ≠ [] ∧ IsWord (firstToken (collapse (dropModal modals cs))) ∧
        BeginsWith (firstToken (collapse (dropModal modals cs)))
          (collapse (dropModal modals cs))) := by
  obtain ⟨ws', hlaid, hnil⟩ := exists_laidOut_dropModal hmodals h
  rw [hlaid.collapse_eq]
  cases ws' with
  | nil => exact .inl ⟨hnil.mp rfl, rfl⟩
  | cons w ws' =>
      have hbegins := beginsWith_spaced w ws'
      rw [hbegins.firstToken_eq hlaid.isWord]
      exact .inr ⟨fun hws => List.cons_ne_nil w ws' (hnil.mpr hws), hlaid.isWord, hbegins⟩

end FirstToken

section Sharing

variable {p r : CodeText}

theorem preconditionKey_cases (p : CodeText) :
    ((∀ c ∈ p, isBlankPoint c = true) ∧ preconditionKey p = []) ∨
      ((∃ c ∈ p, isBlankPoint c = false) ∧ IsWord (firstToken (preconditionKey p)) ∧
        BeginsWith (firstToken (preconditionKey p)) (preconditionKey p)) := by
  have hblank : words (lower p) = [] ↔ ∀ c ∈ p, isBlankPoint c = true :=
    words_eq_nil_iff.trans blank_lower_iff
  rcases key_cases arePrefixFree_preconditionModals (laidOut_trim (lower p)) with
    ⟨hnone, hkey⟩ | ⟨hsome, hword, hbegins⟩
  · exact .inl ⟨hblank.mp hnone, hkey⟩
  · refine .inr ⟨?_, hword, hbegins⟩
    rw [Ne, hblank] at hsome
    push Not at hsome
    obtain ⟨c, hc, hsolid⟩ := hsome
    exact ⟨c, hc, Bool.eq_false_iff.mpr hsolid⟩

/-- The rule's key begins with a word unless it is empty. -/
theorem beginsWith_ruleKey (h : ruleKey (trim r) ≠ []) :
    IsWord (firstToken (ruleKey (trim r))) ∧
      BeginsWith (firstToken (ruleKey (trim r))) (ruleKey (trim r)) := by
  rcases key_cases arePrefixFree_ruleModals (laidOut_trim r) with ⟨-, hkey⟩ | ⟨-, hkey⟩
  · exact absurd hkey h
  · exact hkey

theorem contradicts_iff : contradicts p r = true ↔
    ("not" : CodeText) <:+: ruleKey r ∧ (firstToken (preconditionKey p) <:+: ruleKey r ∨
      firstToken (ruleKey r) <:+: preconditionKey p) := by
  rw [contradicts, Bool.and_eq_true, Bool.or_eq_true, occursIn_iff, occursIn_iff, occursIn_iff]

/-- An empty key shares no token with any other. -/
theorem not_shareToken_nil (key : CodeText) : ¬ ShareToken [] key := by
  rintro ⟨token, hword, ⟨hbegins, -⟩ | ⟨-, hinfix⟩⟩
  · rcases hbegins with hsame | ⟨rest, hsame⟩
    · exact hword.ne_nil hsame.symm
    · exact List.append_ne_nil_of_left_ne_nil hword.ne_nil _ hsame.symm
  · exact hword.ne_nil (List.infix_nil.mp hinfix)

/-- A blank precondition is contradicted by every rule that speaks of "not". -/
theorem contradicts_of_blank (hp : ∀ c ∈ p, isBlankPoint c = true) :
    contradicts p r = true ↔ ("not" : CodeText) <:+: ruleKey r := by
  rcases preconditionKey_cases p with ⟨-, hkey⟩ | ⟨⟨c, hc, hsolid⟩, -⟩
  · rw [contradicts_iff, hkey]
    exact and_iff_left (.inl (List.nil_infix))
  · cases hsolid.symm.trans (hp c hc)

/-- The rule of a contradiction speaks of "not", and the two keys share a token unless the precondition
is blank. -/
theorem shareToken_iff_of_contradicts (h : contradicts p (trim r) = true) :
    ShareToken (preconditionKey p) (ruleKey (trim r)) ↔ ∃ c ∈ p, isBlankPoint c = false := by
  obtain ⟨hnot, hshared⟩ := contradicts_iff.mp h
  have hrule : ruleKey (trim r) ≠ [] := by
    intro hnil
    rw [hnil] at hnot
    exact absurd (List.infix_nil.mp hnot) (by decide)
  rcases preconditionKey_cases p with ⟨hblank, hkey⟩ | ⟨hsolid, hword, hbegins⟩
  · rw [hkey]
    refine iff_of_false (not_shareToken_nil _) ?_
    rintro ⟨c, hc, hsolid⟩
    cases hsolid.symm.trans (hblank c hc)
  · refine iff_of_true ?_ hsolid
    obtain ⟨hruleWord, hruleBegins⟩ := beginsWith_ruleKey hrule
    rcases hshared with hinfix | hinfix
    · exact ⟨_, hword, .inl ⟨hbegins, hinfix⟩⟩
    · exact ⟨_, hruleWord, .inr ⟨hruleBegins, hinfix⟩⟩

end Sharing

section Reported

/-- A contradicting rule speaks of "not", and shares a token with the precondition exactly if the
precondition is not blank. On a behaviour the contradictions that have a blank precondition are those
with the rules that speak of "not", and they are reported like any other. -/
theorem contradiction_shares_token_iff (p r : CodeText) :
    (contradicts p (trim r) = true →
      ("not" : CodeText) <:+: ruleKey (trim r) ∧
        (ShareToken (preconditionKey p) (ruleKey (trim r)) ↔ ∃ c ∈ p, isBlankPoint c = false)) ∧
    ∀ (m : Marker) name preconditions rules, m.name = "Behavior" → m.isParseable = true →
      (m.get "name").displayName = .ok name → m.get "preconditions" = .list preconditions →
      preconditions ≠ [] → HasRules m rules →
        ∃ found, ListsContradictions preconditions rules found ∧
          behaviorValidation.check [m] = .ok (found.map fun c =>
            behaviorValidation.violation m (contradiction name c.1.2 (normalizeRule c.2.2))) ∧
          ∀ i s j t, preconditions[i]? = some (.text s) → rules[j]? = some (.text t) →
            (∀ c ∈ s, isBlankPoint c = true) →
              (((i, s), (j, t)) ∈ found ↔ ("not" : CodeText) <:+: ruleKey (normalizeRule t)) := by
  constructor
  · intro h
    exact ⟨(contradicts_iff.mp h).1, shareToken_iff_of_contradicts h⟩
  · intro m name preconditions rules hm hread hname hlist hne hrules
    have hfound := listsContradictions preconditions rules
    refine ⟨_, hfound, check_of_hasRules hm hread hname hlist hne hrules, ?_⟩
    intro i s j t hs ht hblank
    rw [hfound.mem_iff, contradicts_of_blank hblank, and_iff_right hs, and_iff_right ht]

/-- A behaviour whose first precondition is only blanks. -/
def blankBehavior : Marker :=
  behaviorOf [.text "  ", .text "user is active"] [.text "User must not be blocked"]

theorem contradiction_shares_token_iff_blankBehavior :
    ShareToken (preconditionKey "user is active")
        (ruleKey (trim "user must not be blocked")) ∧
      ∃ found : List ((Nat × CodeText) × (Nat × CodeText)),
        ((0, ("  " : CodeText)), (0, ("User must not be blocked" : CodeText))) ∈ found ∧
        behaviorValidation.check [blankBehavior] = .ok (found.map fun c =>
          behaviorValidation.violation blankBehavior
            (contradiction "Unknown" c.1.2 (normalizeRule c.2.2))) := by
  obtain ⟨hshared, hreported⟩ := contradiction_shares_token_iff "user is active"
    "user must not be blocked"
  constructor
  · exact (hshared (by decide)).2.mpr ⟨'u', by decide, by decide⟩
  · obtain ⟨found, -, hcheck, hblank⟩ := hreported blankBehavior "Unknown" _ _ rfl rfl rfl rfl
      (List.cons_ne_nil _ _) ⟨_, rfl, rfl, List.cons_ne_nil _ _⟩
    refine ⟨found, (hblank 0 _ 0 _ rfl rfl (by decide)).mpr ?_, hcheck⟩
    exact ⟨"user ", " be blocked", by rfl⟩

/-- A blank precondition shares no token with a rule and is reported as contradicted by it. -/
theorem blank_precondition_contradicted :
    contradicts "  " (trim "user must not be blocked") = true ∧
      ¬ ShareToken (preconditionKey "  ")
        (ruleKey (trim "user must not be blocked")) ∧
      behaviorValidation.check [behaviorOf [.text "  "] [.text "user must not be blocked"]] =
        .ok [behaviorValidation.violation
          (behaviorOf [.text "  "] [.text "user must not be blocked"])
          ⟨"validationContradictsPrecondition",
            [("name", "Unknown"), ("validationRule", "user must not be blocked"),
             ("precondition", "")]⟩] := by
  refine ⟨by decide, ?_, by rfl⟩
  rw [show preconditionKey "  " = [] by decide]
  exact not_shareToken_nil _

end Reported

end MarkerLint.Contradiction
