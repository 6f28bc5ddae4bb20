import MarkerLint.Proofs.Elementwise
import MarkerLint.Proofs.ReportLines
import MarkerLint.Proofs.WordLayout
import MarkerLint.Rule.Contradiction

/-!
# The keys of conditions

The key of a precondition or a validation rule depends on its words alone. It is the words with
single spaces between them, less the first space and the modal word after it where the first word is
a subject and the second begins with a modal word. No word of the lists begins another, so an opening
is recognised in one way only.
-/

namespace MarkerLint.Contradiction

open Text

/-- The text is the letters of the word, each in some form. -/
def IsForm (word : String) (cs : CodeText) : Prop :=
  List.Forall₂ (fun l c => c.isIn (isFormOf l) = true) word.toList cs

/-- The text is one of the words, in any case. -/
def IsOneOf (words : List String) (cs : CodeText) : Prop :=
  ∃ w ∈ words, IsForm w cs

/-- One of the letters a to z. -/
def IsSmall (l : Char) : Prop :=
  97 ≤ l.toNat ∧ l.toNat ≤ 122

/-- The words are written in small letters, and none of them is the beginning of another. -/
structure ArePrefixFree (words : List String) : Prop where
  ne_nil : ∀ w ∈ words, w.toList ≠ []
  small : ∀ w ∈ words, ∀ l ∈ w.toList, IsSmall l
  apart : ∀ w ∈ words, ∀ v ∈ words, w.toList <+: v.toList → w = v

theorem arePrefixFree_subjects : ArePrefixFree subjects where
  ne_nil := by decide
  small := by simp [subjects, IsSmall]
  apart := by decide

theorem arePrefixFree_preconditionModals : ArePrefixFree preconditionModals where
  ne_nil := by decide
  small := by simp [preconditionModals, IsSmall]
  apart := by decide

theorem arePrefixFree_ruleModals : ArePrefixFree ruleModals where
  ne_nil := by decide
  small := by simp [ruleModals, IsSmall]
  apart := by decide

section Letters

variable {l l' c : Char} {p : CodePoint}

theorem toNat_toLower (c : Char) :
    c.toLower.toNat = if 65 ≤ c.toNat ∧ c.toNat ≤ 90 then c.toNat + 32 else c.toNat := by
  have hcapital : (c.val ≥ 'A'.val ∧ c.val ≤ 'Z'.val) ↔ 65 ≤ c.toNat ∧ c.toNat ≤ 90 := Iff.rfl
  delta Char.toLower
  split
  · next h =>
      have hrange := hcapital.mp h
      rw [if_pos hrange]
      change (c.val + ('a'.val - 'A'.val)).toNat = _
      rw [UInt32.toNat_add, show ('a'.val - 'A'.val).toNat = 32 from rfl, Char.toNat_val]
      omega
  · next h => rw [if_neg (mt hcapital.mpr h)]

/-- The forms of a small letter: itself, its capital, and the relatives of i and s. -/
theorem toNat_of_isFormOf (h : isFormOf l c = true) :
    c.toNat = l.toNat ∨ c.toNat + 32 = l.toNat ∨
      (l.toNat = 105 ∧ (c.toNat = 0x130 ∨ c.toNat = 0x131)) ∨
      (l.toNat = 115 ∧ c.toNat = 0x17F) := by
  simp only [isFormOf, Bool.or_eq_true, Bool.and_eq_true, beq_iff_eq] at h
  rcases h with ((rfl | ⟨-, rfl⟩) | ⟨rfl, hi⟩) | ⟨rfl, hs⟩
  · exact .inl rfl
  · rw [toNat_toLower]
    split
    · exact .inr (.inl rfl)
    · exact .inl rfl
  · exact .inr (.inr (.inl ⟨rfl, hi⟩))
  · exact .inr (.inr (.inr ⟨rfl, hs⟩))

/-- No form of a small letter is a blank. -/
theorem IsSmall.isBlankPoint_eq_false (hl : IsSmall l) (h : p.isIn (isFormOf l) = true) :
    isBlankPoint p = false := by
  obtain ⟨c, rfl, hc⟩ := CodePoint.isIn_eq_true_iff.mp h
  have hforms := toNat_of_isFormOf hc
  rw [IsSmall] at hl
  simp [isBlankPoint, isBlank]
  omega

/-- A code point is a form of one small letter at most. -/
theorem IsSmall.eq_of_isFormOf (hl : IsSmall l) (hl' : IsSmall l')
    (h : p.isIn (isFormOf l) = true) (h' : p.isIn (isFormOf l') = true) : l = l' := by
  obtain ⟨c, rfl, hc⟩ := CodePoint.isIn_eq_true_iff.mp h
  have hforms := toNat_of_isFormOf hc
  have hforms' := toNat_of_isFormOf h'
  rw [IsSmall] at hl hl'
  have hcode : l.toNat = l'.toNat := by omega
  exact Char.toNat_inj.mp hcode

end Letters

section Splitting

theorem splitWord?_eq_some_iff {w : List Char} {cs a rest : CodeText} :
    splitWord? w cs = some (a, rest) ↔
      cs = a ++ rest ∧ List.Forall₂ (fun l c => c.isIn (isFormOf l) = true) w a := by
  induction w generalizing cs a with
  | nil =>
      rw [splitWord?, List.forall₂_nil_left_iff, Option.some.injEq, Prod.mk.injEq]
      constructor
      · rintro ⟨rfl, rfl⟩
        exact ⟨rfl, rfl⟩
      · rintro ⟨rfl, rfl⟩
        exact ⟨rfl, rfl⟩
  | cons l w ih =>
      cases cs with
      | nil =>
          rw [splitWord?]
          constructor
          · rintro ⟨⟩
          · rintro ⟨hcs, ⟨⟩⟩
            cases hcs
      | cons c cs =>
          rw [splitWord?]
          split
          · next hc =>
              rw [Option.map_eq_some_iff]
              constructor
              · rintro ⟨⟨b, more⟩, hsplit, heq⟩
                cases heq
                obtain ⟨rfl, hforms⟩ := ih.mp hsplit
                exact ⟨rfl, .cons hc hforms⟩
              · rintro ⟨hcs, _ | ⟨hd, hforms⟩⟩
                obtain ⟨rfl, rfl⟩ := List.cons.inj hcs
                exact ⟨_, ih.mpr ⟨rfl, hforms⟩, rfl⟩
          · next hc =>
              constructor
              · rintro ⟨⟩
              · rintro ⟨hcs, _ | ⟨hd, -⟩⟩
                obtain ⟨rfl, -⟩ := List.cons.inj hcs
                exact absurd hd hc

theorem splitOneOf?_eq_some {words : List String} {cs a rest : CodeText}
    (h : splitOneOf? words cs = some (a, rest)) : cs = a ++ rest ∧ IsOneOf words a := by
  obtain ⟨w, hw, hsplit⟩ := List.exists_of_findSome?_eq_some h
  obtain ⟨hcs, hforms⟩ := splitWord?_eq_some_iff.mp hsplit
  exact ⟨hcs, w, hw, hforms⟩

/-- Of two words in small letters that a text begins with, one begins the other. -/
theorem isPrefix_or_isPrefix {w v : List Char} {a b as bs : CodeText} (hw : ∀ l ∈ w, IsSmall l)
    (hv : ∀ l ∈ v, IsSmall l) (ha : List.Forall₂ (fun l c => c.isIn (isFormOf l) = true) w a)
    (hb : List.Forall₂ (fun l c => c.isIn (isFormOf l) = true) v b) (h : a ++ as = b ++ bs) :
    w <+: v ∨ v <+: w := by
  induction ha generalizing v b with
  | nil => exact .inl List.nil_prefix
  | @cons l c w a hlc _ ih =>
      cases hb with
      | nil => exact .inr List.nil_prefix
      | @cons l' c' v b hlc' hb =>
          obtain ⟨rfl, htail⟩ := List.cons.inj h
          rw [List.forall_mem_cons] at hw hv
          obtain rfl := hw.1.eq_of_isFormOf hv.1 hlc hlc'
          simpa only [List.cons_prefix_cons, true_and] using ih hw.2 hv.2 hb htail

/-- A text that begins with one of the words is split after it. -/
theorem ArePrefixFree.splitOneOf?_append {words : List String} (hwords : ArePrefixFree words)
    {a : CodeText} (ha : IsOneOf words a) (rest : CodeText) :
    splitOneOf? words (a ++ rest) = some (a, rest) := by
  obtain ⟨w, hw, hform⟩ := ha
  have hsplit : splitWord? w.toList (a ++ rest) = some (a, rest) :=
    splitWord?_eq_some_iff.mpr ⟨rfl, hform⟩
  cases hfound : splitOneOf? words (a ++ rest) with
  | none =>
      have hnone := List.findSome?_eq_none_iff.mp hfound w hw
      cases hnone.symm.trans hsplit
  | some found =>
      obtain ⟨b, more⟩ := found
      obtain ⟨v, hv, hother⟩ := List.exists_of_findSome?_eq_some hfound
      obtain ⟨heq, hform'⟩ := splitWord?_eq_some_iff.mp hother
      have hsame : w = v := by
        rcases isPrefix_or_isPrefix (hwords.small w hw) (hwords.small v hv) hform hform' heq with
          h | h
        · exact hwords.apart w hw v hv h
        · exact (hwords.apart v hv w hw h).symm
      rw [← hother, ← hsame, hsplit]

theorem ArePrefixFree.isWord {words : List String} (hwords : ArePrefixFree words) {a : CodeText}
    (ha : IsOneOf words a) : IsWord a := by
  obtain ⟨w, hw, hform⟩ := ha
  constructor
  · rintro rfl
    exact hwords.ne_nil w hw (List.forall₂_nil_right_iff.mp hform)
  · intro c hc
    obtain ⟨l, hl, hlc⟩ := exists_of_mem_forall₂ hform hc
    exact (hwords.small w hw l hl).isBlankPoint_eq_false hlc

end Splitting

/-- The words open with a subject, and the next one begins with a modal word. -/
structure Opens (modals : List String) (ws : List CodeText) (subject modal : CodeText) :
    Prop where
  isSubject : IsOneOf subjects subject
  isModal : IsOneOf modals modal
  words_eq : ∃ tail rest, ws = subject :: (modal ++ tail) :: rest

/-- The key of a list of words: the words with single spaces between them, from which the first space
and the modal word after it are removed if the words open so. -/
structure IsKey (modals : List String) (ws : List CodeText) (key : CodeText) : Prop where
  opened : ∀ subject modal, Opens modals ws subject modal →
    ∃ after, spaced ws = subject ++ .char ' ' :: (modal ++ after) ∧ key = subject ++ after
  unopened : (∀ subject modal, ¬ Opens modals ws subject modal) → key = spaced ws

/-- Words have one key. -/
theorem IsKey.unique {modals : List String} {ws : List CodeText} {key key' : CodeText}
    (h : IsKey modals ws key) (h' : IsKey modals ws key') : key = key' := by
  by_cases hopens : ∃ subject modal, Opens modals ws subject modal
  · obtain ⟨subject, modal, hopens⟩ := hopens
    obtain ⟨after, hspaced, rfl⟩ := h.opened subject modal hopens
    obtain ⟨after', hspaced', rfl⟩ := h'.opened subject modal hopens
    rw [hspaced, List.append_cancel_left_eq, List.cons.injEq, List.append_cancel_left_eq]
      at hspaced'
    rw [hspaced'.2]
  · have hnone : ∀ subject modal, ¬ Opens modals ws subject modal :=
      fun subject modal hopens' => hopens ⟨subject, modal, hopens'⟩
    rw [h.unopened hnone, h'.unopened hnone]

section Openings

variable {modals : List String} {ws : List CodeText} {cs subject modal : CodeText}

/-- What follows the first word does not depend on it. -/
theorem exists_spaced_cons (ws : List CodeText) : ∃ more, ∀ w, spaced (w :: ws) = w ++ more := by
  cases ws with
  | nil => exact ⟨[], fun w => by rw [spaced, List.intercalate_singleton, List.append_nil]⟩
  | cons v ws =>
      refine ⟨.char ' ' :: spaced (v :: ws), fun w => ?_⟩
      rw [spaced, List.intercalate_cons_cons, List.append_assoc, List.singleton_append, spaced]

theorem exists_laidOut_cons {w : CodeText} (h : LaidOut (w :: ws) cs) :
    ∃ more, cs = w ++ more ∧ ∀ v, IsWord v → LaidOut (v :: ws) (v ++ more) := by
  cases h with
  | single =>
      refine ⟨[], (List.append_nil _).symm, fun v hv => ?_⟩
      rw [List.append_nil]
      exact .single hv
  | cons _ hg h => exact ⟨_, rfl, fun v hv => .cons hv hg h⟩

/-- The modal word is dropped from a text that opens so, with the gap before it. -/
theorem Opens.laidOut_dropModal (ho : Opens modals ws subject modal) (hmodals : ArePrefixFree modals)
    (h : LaidOut ws cs) :
    ∃ tail rest, ws = subject :: (modal ++ tail) :: rest ∧
      LaidOut ((subject ++ tail) :: rest) (dropModal modals cs) := by
  obtain ⟨hsubject, hmodal, tail, rest, rfl⟩ := ho
  refine ⟨tail, rest, rfl, ?_⟩
  cases h with
  | @cons _ g _ cs _ hw hg h =>
      obtain ⟨more, rfl, hmore⟩ := exists_laidOut_cons h
      have hsecond := h.isWord
      have hsplit := arePrefixFree_subjects.splitOneOf?_append hsubject
        (g ++ (modal ++ (tail ++ more)))
      have hspan : (g ++ (modal ++ (tail ++ more))).span isBlankPoint =
          (g, modal ++ (tail ++ more)) := by
        obtain ⟨hne, hsolid⟩ := hmodals.isWord hmodal
        cases modal with
        | nil => exact absurd rfl hne
        | cons c modal => exact span_append hg.blank (hsolid c List.mem_cons_self) _
      have hdrop : dropModal modals (subject ++ (g ++ (modal ++ (tail ++ more)))) =
          (subject ++ tail) ++ more := by
        rw [dropModal, hsplit]
        simp only [hspan]
        cases g with
        | nil => exact absurd rfl hg.ne_nil
        | cons b g =>
            simp only [hmodals.splitOneOf?_append hmodal (tail ++ more)]
            rw [List.append_assoc]
      rw [List.append_assoc, hdrop]
      apply hmore
      constructor
      · exact List.append_ne_nil_of_left_ne_nil hw.ne_nil tail
      · intro c hc
        rcases List.mem_append.mp hc with hc | hc
        · exact hw.solid c hc
        · exact hsecond.solid c (List.mem_append_right modal hc)

/-- A text that drops a modal word opens with one. -/
theorem exists_opens_of_dropModal_ne (hmodals : ArePrefixFree modals) (h : LaidOut ws cs)
    (hne : dropModal modals cs ≠ cs) : ∃ subject modal, Opens modals ws subject modal := by
  rw [dropModal] at hne
  split at hne
  · exact absurd rfl hne
  · next subject rest hfirst =>
      split at hne
      · exact absurd rfl hne
      · next b g rest' hspan =>
          split at hne
          · exact absurd rfl hne
          · next modal after hsecond =>
              obtain ⟨rfl, hsubject⟩ := splitOneOf?_eq_some hfirst
              obtain ⟨rfl, hblank⟩ := span_eq hspan
              obtain ⟨rfl, hmodal⟩ := splitOneOf?_eq_some hsecond
              have hw := arePrefixFree_subjects.isWord hsubject
              have hg : IsGap (b :: g) := ⟨List.cons_ne_nil b g, hblank⟩
              obtain ⟨tail, rest, htail⟩ := (hmodals.isWord hmodal).exists_words_append after
              refine ⟨subject, modal, hsubject, hmodal, tail, rest, ?_⟩
              rw [← h.words_eq, hw.words_append hg, htail]

/-- The key of a text that is laid out in words is the key of these words. -/
theorem isKey_of_laidOut (hmodals : ArePrefixFree modals) (h : LaidOut ws cs) :
    IsKey modals ws (collapse (dropModal modals cs)) := by
  constructor
  · intro subject modal hopens
    obtain ⟨tail, rest, rfl, hlaid⟩ := hopens.laidOut_dropModal hmodals h
    obtain ⟨more, hmore⟩ := exists_spaced_cons rest
    refine ⟨tail ++ more, ?_, ?_⟩
    · rw [spaced, List.intercalate_cons_cons, ← spaced, hmore]
      simp only [List.append_assoc, List.singleton_append]
    · rw [hlaid.collapse_eq, hmore, List.append_assoc]
  · intro hnone
    have hsame : dropModal modals cs = cs := by
      by_contra hne
      obtain ⟨subject, modal, hopens⟩ := exists_opens_of_dropModal_ne hmodals h hne
      exact hnone subject modal hopens
    rw [hsame, h.collapse_eq]

end Openings

/-- The key of a precondition is that of its words in lower case. -/
theorem isKey_preconditionKey (precondition : CodeText) :
    IsKey preconditionModals (words (lower precondition)) (preconditionKey precondition) :=
  isKey_of_laidOut arePrefixFree_preconditionModals (laidOut_trim _)

/-- The key of a trimmed rule is that of its words. -/
theorem isKey_ruleKey (rule : CodeText) : IsKey ruleModals (words rule) (ruleKey (trim rule)) :=
  isKey_of_laidOut arePrefixFree_ruleModals (laidOut_trim rule)

end MarkerLint.Contradiction
