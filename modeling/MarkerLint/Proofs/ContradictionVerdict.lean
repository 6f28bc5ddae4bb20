import MarkerLint.Proofs.CheckAnswers
import MarkerLint.Proofs.ContradictionKeys

/-!
# Contradictions and layout

Which preconditions a validation rule contradicts depends on the words of both alone. Behaviours that
differ in the case of letters and in blanks only are reported for the same pairs of a precondition
and a rule, in the same order.
-/

namespace MarkerLint

open Text Contradiction Rule

/-- Two texts with the same words, in any case and with any blanks between and around them. -/
def SameWords (s t : CodeText) : Prop :=
  words (lower s) = words (lower t)

/-- One value for two, or two texts with the same words. -/
inductive Data.SameWording : Datum → Datum → Prop
  | refl (v : Datum) : SameWording v v
  | text {s t : CodeText} (h : SameWords s t) : SameWording (.text s) (.text t)

/-- Two lists of the same wording, item by item, or two values that are no lists. -/
def Data.SameItems (v w : Datum) : Prop :=
  (∃ vs ws, v = .list vs ∧ w = .list ws ∧ List.Forall₂ SameWording vs ws) ∨
    v.items? = none ∧ w.items? = none

/-- Two markers whose preconditions and validation rules have the same wording, item by item. -/
structure Marker.SameWording (m m' : Marker) : Prop where
  name_eq : m.get "name" = m'.get "name"
  preconditions : (m.get "preconditions").SameItems (m'.get "preconditions")
  rules : ∃ rs rs', validationRules? (m.get "validation") = some rs ∧
    validationRules? (m'.get "validation") = some rs' ∧ List.Forall₂ Data.SameWording rs rs'

namespace Rule

/-- The texts among values, each with its place. -/
def placedTexts (values : List Datum) : List (Nat × CodeText) :=
  values.zipIdx.filterMap fun e => e.1.text?.map (e.2, ·)

/-- The pairs of a precondition and a rule that contradicts it, with their places: for one
precondition after the other, the rules in order. -/
def contradictions (preconditions rules : List Datum) :
    List ((Nat × CodeText) × (Nat × CodeText)) :=
  (placedTexts preconditions).flatMap fun p =>
    ((placedTexts rules).filter fun r =>
      contradicts p.2 (normalizeRule r.2)).map fun r => (p, r)

/-- The contradictions on a marker, if it has preconditions and rules. -/
def contradictionsOn (m : Marker) : List ((Nat × CodeText) × (Nat × CodeText)) :=
  match m.get "preconditions", validationRules? (m.get "validation") with
  | .list preconditions, some rules => contradictions preconditions rules
  | _, _ => []

/-- The places of the preconditions and rules that contradict each other on a marker. -/
def contradictionPlaces (m : Marker) : List (Nat × Nat) :=
  (contradictionsOn m).map fun c => (c.1.1, c.2.1)

/-- The violations are one for each contradiction on the marker, in order. -/
def AreContradictionsOn (m : Marker) (vs : List Violation) : Prop :=
  ∃ name, vs = (contradictionsOn m).map fun c =>
    behaviorValidation.violation m (contradiction name c.1.2 (normalizeRule c.2.2))

theorem map_snd_placedFrom (values : List Datum) (start : Nat) :
    ((values.zipIdx start).filterMap fun e => e.1.text?.map (e.2, ·)).map (·.2) =
      textsAmong values := by
  induction values generalizing start with
  | nil => rfl
  | cons v rest ih =>
      rw [textsAmong] at ih ⊢
      rw [List.zipIdx_cons, List.filterMap_cons, List.filterMap_cons]
      cases v.text? with
      | none => exact ih (start + 1)
      | some s => exact congrArg (s :: ·) (ih (start + 1))

theorem map_snd_placedTexts (values : List Datum) :
    (placedTexts values).map (·.2) = textsAmong values :=
  map_snd_placedFrom values 0

/-- The findings on preconditions with rules are the contradictions between them. -/
theorem preconditionFindings_eq (name : CodeText) (preconditions rules : List Datum) :
    preconditionFindings name (textsAmong preconditions) (some rules) =
      (contradictions preconditions rules).map fun c =>
        contradiction name c.1.2 (normalizeRule c.2.2) := by
  rw [preconditionFindings, contradictions, ← map_snd_placedTexts, ← map_snd_placedTexts]
  simp only [List.flatMap_map, List.map_flatMap, List.map_map, List.filter_map, Function.comp_def]

/-- Whatever is reported about a marker with rules is its contradictions. -/
theorem areContradictionsOn_of_checkMarker {m : Marker} {rules : List Datum}
    (hrules : validationRules? (m.get "validation") = some rules) {vs : List Violation}
    (h : behaviorValidation.checkMarker m = .ok vs) : AreContradictionsOn m vs := by
  obtain ⟨found, hfound, rfl⟩ := map_eq_ok_iff.mp h
  change validationFindings m = .ok found at hfound
  rw [validationFindings] at hfound
  rw [AreContradictionsOn, contradictionsOn, hrules]
  split at hfound
  · next p ps hpreconditions =>
      obtain ⟨name, -, hfound⟩ := bind_eq_ok_iff.mp hfound
      rw [hrules, preconditionFindings_eq] at hfound
      cases hfound
      refine ⟨name, ?_⟩
      rw [hpreconditions, List.map_map]
      rfl
  · next hnone =>
      cases hfound
      refine ⟨"", ?_⟩
      cases hpreconditions : m.get "preconditions" with
      | list ps =>
          cases ps with
          | nil => rfl
          | cons p ps => exact absurd hpreconditions (hnone p ps)
      | _ => rfl

end Rule

section Comparison

/-- The key of a precondition depends on its words in lower case alone. -/
theorem preconditionKey_congr {p p' : CodeText} (h : words (lower p) = words (lower p')) :
    preconditionKey p = preconditionKey p' := by
  have hkey := isKey_preconditionKey p'
  rw [← h] at hkey
  exact (isKey_preconditionKey p).unique hkey

theorem ruleKey_congr {r r' : CodeText} (h : words r = words r') :
    ruleKey (trim r) = ruleKey (trim r') := by
  have hkey := isKey_ruleKey r'
  rw [← h] at hkey
  exact (isKey_ruleKey r).unique hkey

theorem SameWords.contradicts_eq {p p' r r' : CodeText} (hp : SameWords p p')
    (hr : SameWords r r') :
    contradicts p (normalizeRule r) = contradicts p' (normalizeRule r') := by
  rw [contradicts, contradicts, normalizeRule, normalizeRule, preconditionKey_congr hp,
    ruleKey_congr hr]

/-- Two texts at one place, with the same words. -/
def SamePlaced (p q : Nat × CodeText) : Prop :=
  p.1 = q.1 ∧ SameWords p.2 q.2

theorem forall₂_samePlaced_from {vs ws : List Datum} (h : List.Forall₂ Data.SameWording vs ws)
    (start : Nat) :
    List.Forall₂ SamePlaced ((vs.zipIdx start).filterMap fun e => e.1.text?.map (e.2, ·))
      ((ws.zipIdx start).filterMap fun e => e.1.text?.map (e.2, ·)) := by
  induction h generalizing start with
  | nil => exact .nil
  | @cons v w vs ws hvw _ ih =>
      rw [List.zipIdx_cons, List.zipIdx_cons, List.filterMap_cons, List.filterMap_cons]
      cases hvw with
      | refl =>
          cases v.text? with
          | none => exact ih (start + 1)
          | some s => exact .cons ⟨rfl, rfl⟩ (ih (start + 1))
      | text hst => exact .cons ⟨rfl, hst⟩ (ih (start + 1))

/-- Lists of the same wording contradict each other at the same places. -/
theorem forall₂_contradictions {ps ps' rs rs' : List Datum}
    (hps : List.Forall₂ Data.SameWording ps ps') (hrs : List.Forall₂ Data.SameWording rs rs') :
    List.Forall₂ (fun c c' => SamePlaced c.1 c'.1 ∧ SamePlaced c.2 c'.2) (contradictions ps rs)
      (contradictions ps' rs') := by
  apply List.rel_flatMap (forall₂_samePlaced_from hps 0)
  intro p p' hp
  apply List.rel_map (R := SamePlaced)
  · intro r r' hr
    exact ⟨hp, hr⟩
  · apply List.rel_filter _ (forall₂_samePlaced_from hrs 0)
    intro r r' hr
    exact (hp.2.contradicts_eq hr.2).congr_left

theorem contradictionPlaces_of_not_list {m : Marker} (h : (m.get "preconditions").items? = none) :
    contradictionPlaces m = [] := by
  rw [contradictionPlaces, contradictionsOn]
  split
  · next hlist _ =>
      rw [hlist] at h
      cases h
  · rfl

theorem Marker.SameWording.contradictionPlaces_eq {m m' : Marker} (h : m.SameWording m') :
    contradictionPlaces m = contradictionPlaces m' := by
  obtain ⟨rs, rs', hrs, hrs', hrules⟩ := h.rules
  rcases h.preconditions with ⟨ps, ps', hps, hps', hpreconditions⟩ | ⟨hnone, hnone'⟩
  · rw [contradictionPlaces, contradictionPlaces, contradictionsOn, contradictionsOn, hps, hps', hrs,
      hrs']
    apply map_eq_map_of_forall₂ (forall₂_contradictions hpreconditions hrules)
    rintro c c' ⟨hp, hr⟩
    rw [hp.1, hr.1]
  · rw [contradictionPlaces_of_not_list hnone, contradictionPlaces_of_not_list hnone']

theorem not_hasPreconditions_of_not_list {m : Marker}
    (h : (m.get "preconditions").items? = none) : ¬ HasPreconditions m := by
  rintro ⟨p, ps, hlist⟩
  rw [hlist] at h
  cases h

theorem Marker.SameWording.hasPreconditions_iff {m m' : Marker} (h : m.SameWording m') :
    HasPreconditions m ↔ HasPreconditions m' := by
  rcases h.preconditions with ⟨ps, ps', hps, hps', hpreconditions⟩ | ⟨hnone, hnone'⟩
  · rw [HasPreconditions, HasPreconditions, hps, hps']
    cases hpreconditions with
    | nil => exact Iff.rfl
    | cons => exact ⟨fun _ => ⟨_, _, rfl⟩, fun _ => ⟨_, _, rfl⟩⟩
  · exact iff_of_false (not_hasPreconditions_of_not_list hnone)
      (not_hasPreconditions_of_not_list hnone')

/-- The rule has an answer on both markers or on neither. -/
theorem Marker.SameWording.exists_checkMarker_iff {m m' : Marker} (h : m.SameWording m') :
    (∃ vs, behaviorValidation.checkMarker m = .ok vs) ↔
      ∃ vs, behaviorValidation.checkMarker m' = .ok vs := by
  rw [(isWrittenIff_checkMarker isWrittenIff_validationFindings m).exists_iff,
    (isWrittenIff_checkMarker isWrittenIff_validationFindings m').exists_iff,
    h.hasPreconditions_iff, HasName, HasName, h.name_eq]

end Comparison

/-- The keys of conditions depend on their words in lower case alone: a key is the words with single
spaces between them, less the first space and the modal word after it where they open so. Therefore
behaviours of the same wording are reported for the same pairs of a precondition and a rule. -/
theorem verdict_ignores_layout :
    (∀ p p' : CodeText, words (lower p) = words (lower p') →
      preconditionKey p = preconditionKey p') ∧
    (∀ r r' : CodeText, words (lower r) = words (lower r') →
      ruleKey (trim (lower r)) = ruleKey (trim (lower r'))) ∧
    (∀ p, IsKey preconditionModals (words (lower p)) (preconditionKey p)) ∧
    (∀ r, IsKey ruleModals (words (lower r)) (ruleKey (trim (lower r)))) ∧
    ∀ m m' : Marker, m.SameWording m' →
      (∀ vs, behaviorValidation.checkMarker m = .ok vs → AreContradictionsOn m vs) ∧
      (∀ vs, behaviorValidation.checkMarker m' = .ok vs → AreContradictionsOn m' vs) ∧
      ((∃ vs, behaviorValidation.checkMarker m = .ok vs) ↔
        ∃ vs, behaviorValidation.checkMarker m' = .ok vs) ∧
      contradictionPlaces m = contradictionPlaces m' := by
  refine ⟨fun p p' h => preconditionKey_congr h, fun r r' h => ruleKey_congr h,
    isKey_preconditionKey, fun r => isKey_ruleKey (lower r), ?_⟩
  intro m m' h
  obtain ⟨rs, rs', hrs, hrs', -⟩ := h.rules
  refine ⟨?_, ?_, h.exists_checkMarker_iff, h.contradictionPlaces_eq⟩
  · intro vs hvs
    exact areContradictionsOn_of_checkMarker hrs hvs
  · intro vs hvs
    exact areContradictionsOn_of_checkMarker hrs' hvs

/-- A part of a modal word may open the second word. -/
example : preconditionKey "User  ISland\ttrip " = "userland trip" := by decide

/-- A behaviour with the given preconditions and validation rules. -/
def behaviorOf (preconditions rules : List Datum) : Marker where
  name := "Behavior"
  span := nowhere
  location := "a.py:1:1"
  reading := .metadata
    [("preconditions", .list preconditions), ("validation", .table [("rules", .list rules)])]

/-- Two preconditions, with an integer between them, and two rules, in a loose layout. -/
def looseBehavior : Marker :=
  behaviorOf [.text "  The KYC check\tpassed ", .integer 1, .text "User  IS known"]
    [.null, .text "User\nmust   NOT be unknown "]

/-- The same preconditions and rules in a tight layout. -/
def tightBehavior : Marker :=
  behaviorOf [.text "the kyc check passed", .integer 1, .text "user is known"]
    [.null, .text "user must not be unknown"]

theorem sameWording_looseBehavior : looseBehavior.SameWording tightBehavior where
  name_eq := rfl
  preconditions := by
    refine .inl ⟨_, _, rfl, rfl, .cons (.text ?_) (.cons (.refl _) (.cons (.text ?_) .nil))⟩
    · rw [SameWords]
      decide
    · rw [SameWords]
      decide
  rules := by
    refine ⟨_, _, rfl, rfl, .cons (.refl _) (.cons (.text ?_) .nil)⟩
    rw [SameWords]
    decide

theorem verdict_ignores_layout_looseBehavior :
    looseBehavior.SameWording tightBehavior ∧ contradictionPlaces looseBehavior = [(2, 1)] ∧
      contradictionPlaces tightBehavior = [(2, 1)] ∧
      words (lower "User  IS known") = words (lower "user is known") ∧
      preconditionKey "User  IS known" = preconditionKey "user is known" ∧
      ruleKey (trim (lower "User  IS known")) =
        ruleKey (trim (lower "user is known")) := by
  have hplaces : contradictionPlaces tightBehavior = [(2, 1)] := by decide
  have hwords : words (lower "User  IS known") = words (lower "user is known") := by
    decide
  obtain ⟨hprecondition, hrule, -, -, hverdict⟩ := verdict_ignores_layout
  obtain ⟨-, -, -, hsame⟩ := hverdict looseBehavior tightBehavior sameWording_looseBehavior
  exact ⟨sameWording_looseBehavior, hsame.trans hplaces, hplaces, hwords,
    hprecondition _ _ hwords, hrule _ _ hwords⟩

end MarkerLint
