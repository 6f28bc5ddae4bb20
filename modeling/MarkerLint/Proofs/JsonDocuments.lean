import Mathlib.Data.List.Forall2
import MarkerLint.Proofs.CheckAnswers
import MarkerLint.Proofs.Elementwise
import MarkerLint.Proofs.JsonNumbers

/-!
# Documents in JSON

The text of a document whose floating-point numbers are in normal form is taken exactly if all of
them are finite. It is read as the document with the pairs of surrogates in its texts joined, and
that is the document itself exactly if no two neighbours are a pair, given that its members have
distinct names. A document has a text exactly if all its integers can be written.
-/

namespace MarkerLint.Json

mutual

/-- The test holds everywhere in a document. -/
def all (p : Json → Bool) : Json → Bool
  | .list items => p (.list items) && allItems p items
  | .object members => p (.object members) && allMembers p members
  | .null => p .null
  | .boolean b => p (.boolean b)
  | .text s => p (.text s)
  | .integer i => p (.integer i)
  | .float x => p (.float x)

/-- The test holds everywhere in the items of a list. -/
def allItems (p : Json → Bool) : List Json → Bool
  | [] => true
  | j :: rest => all p j && allItems p rest

/-- The test holds everywhere in the members of an object. -/
def allMembers (p : Json → Bool) : List (CodeText × Json) → Bool
  | [] => true
  | (_, j) :: rest => all p j && allMembers p rest

end

/-- No floating-point number that is not finite. -/
def hasFiniteFloat : Json → Bool
  | .float x => x.isFinite
  | _ => true

/-- No integer that cannot be written. -/
def hasShortInteger : Json → Bool
  | .integer i => decide (i.natAbs < 10 ^ digitLimit)
  | _ => true

/-- No neighbours in a text or in a name that are a pair of surrogates. -/
def hasPairlessTexts : Json → Bool
  | .text s => decide s.IsPairless
  | .object members => members.all fun e => decide e.1.IsPairless
  | _ => true

/-- All floating-point numbers in the document are finite. -/
def isFinite (j : Json) : Bool :=
  j.all hasFiniteFloat

/-- All integers in the document can be written. -/
def isShort (j : Json) : Bool :=
  j.all hasShortInteger

/-- No text or name in the document has a pair of surrogates. -/
def isPairless (j : Json) : Bool :=
  j.all hasPairlessTexts

mutual

/-- The document with the pairs of surrogates in its texts and names joined. Of members whose names
become one the last counts. -/
def joined : Json → Json
  | .text s => .text s.joined
  | .list items => .list (joinedItems items)
  | .object members => .object (Table.ofList (joinedMembers members))
  | .null => .null
  | .boolean b => .boolean b
  | .integer i => .integer i
  | .float x => .float x

/-- The items of a list with pairs joined. -/
def joinedItems : List Json → List Json
  | [] => []
  | j :: rest => joined j :: joinedItems rest

/-- The members of an object with pairs joined. -/
def joinedMembers : List (CodeText × Json) → List (CodeText × Json)
  | [] => []
  | (name, j) :: rest => (name.joined, joined j) :: joinedMembers rest

end

/-- A member with pairs joined. -/
def joinedMember (e : CodeText × Json) : CodeText × Json :=
  (e.1.joined, e.2.joined)

/-- Floating-point numbers are in normal form, and the members of an object have distinct names. -/
inductive IsTidy : Json → Prop
  | null : IsTidy .null
  | boolean (b : Bool) : IsTidy (.boolean b)
  | text (s : CodeText) : IsTidy (.text s)
  | integer (i : Int) : IsTidy (.integer i)
  | float {x : Binary64} (h : x.IsNormal) : IsTidy (.float x)
  | list {items : List Json} (each : ∀ j ∈ items, IsTidy j) : IsTidy (.list items)
  | object {members : List (CodeText × Json)} (distinct : (members.map (·.1)).Nodup)
      (each : ∀ e ∈ members, IsTidy e.2) : IsTidy (.object members)

section Gaps

variable {rest : List Char} {level : Nat}

/-- A closing bracket. -/
def closes (c : Char) : Bool :=
  c == ']' || c == '\x7d'

/-- The text begins like a value, not with a blank or with a closing bracket. -/
def StartsValue (cs : List Char) : Prop :=
  ∃ c rest, cs = c :: rest ∧ isGap c = false ∧ closes c = false

theorem StartsValue.append {cs : List Char} (h : StartsValue cs) (rest : List Char) :
    StartsValue (cs ++ rest) := by
  obtain ⟨c, cs, rfl, hc⟩ := h
  exact ⟨c, cs ++ rest, rfl, hc⟩

theorem skipGaps_cons {c : Char} (hc : isGap c = false) (rest : List Char) :
    skipGaps (c :: rest) = c :: rest := by
  rw [skipGaps, List.dropWhile_cons_of_neg (by simp [hc])]

theorem StartsValue.skipGaps_eq {cs : List Char} (h : StartsValue cs) : skipGaps cs = cs := by
  obtain ⟨c, rest, rfl, hc, -⟩ := h
  exact skipGaps_cons hc rest

/-- The beginning of a line is passed over. -/
theorem skipGaps_lineStart (level : Nat) (rest : List Char) :
    skipGaps ((lineStart level).toList ++ rest) = skipGaps rest := by
  have hgaps : ∀ c ∈ (lineStart level).toList, isGap c = true := by
    intro c hc
    rw [lineStart, String.toList_append, List.mem_append] at hc
    rcases hc with hc | hc
    · obtain rfl := List.mem_singleton.mp hc
      decide
    · rw [String.toList_ofList] at hc
      obtain rfl := List.eq_of_mem_replicate hc
      decide
  rw [skipGaps, List.dropWhile_append_of_pos hgaps, skipGaps]

theorem endsNumber_cons {c : Char} (hc : continuesNumber c = false) (rest : List Char) :
    EndsNumber (c :: rest) := by
  intro d hd
  rwa [← Option.some.inj hd]

theorem endsNumber_lineStart (level : Nat) (rest : List Char) :
    EndsNumber ((lineStart level).toList ++ rest) := by
  rw [lineStart, String.toList_append, List.append_assoc]
  exact endsNumber_cons (by decide) _

end Gaps

section Reading

variable {α : Type} {element? : List Char → Option (α × List Char)} {good : α → Bool} {a : α}
  {j : Json} {level : Nat} {rest : List Char}

/-- The text begins like a value. If the element is good the text is read as what it is taken for,
and else not at all. -/
structure IsRead (element? : List Char → Option (α × List Char)) (good : α → Bool) (taken : α → α)
    (a : α) (text : String) : Prop where
  starts : StartsValue text.toList
  reads : ∀ rest, EndsNumber rest →
    element? (text.toList ++ rest) = if good a then some (taken a, rest) else none

/-- The text of the document at a level is read with as much fuel as it is long, if all
floating-point numbers in the document are finite. -/
def IsReadAt (level : Nat) (j : Json) : Prop :=
  ∀ text, textAt level j = .ok text → ∀ fuel, text.toList.length ≤ fuel →
    IsRead (value? fuel) isFinite joined j text

/-- A text that begins like a value leaves some fuel. -/
theorem StartsValue.exists_fuel {text : List Char} (h : StartsValue text) {fuel : Nat}
    (hfuel : text.length ≤ fuel) : ∃ less, fuel = less + 1 := by
  obtain ⟨c, others, rfl, -⟩ := h
  rw [List.length_cons] at hfuel
  exact Nat.exists_eq_add_one_of_ne_zero (by omega)

/-- A value is read if its one text is, with any fuel. -/
theorem isReadAt_of_text (word : String) (htext : ∀ text, textAt level j = .ok text → text = word)
    (hstarts : StartsValue word.toList)
    (hread : ∀ fuel rest, EndsNumber rest →
      value? (fuel + 1) (word.toList ++ rest) =
        if j.isFinite then some (j.joined, rest) else none) :
    IsReadAt level j := by
  intro text h fuel hfuel
  obtain rfl := htext text h
  obtain ⟨fuel, rfl⟩ := hstarts.exists_fuel hfuel
  exact ⟨hstarts, hread fuel⟩

theorem isReadAt_null (level : Nat) : IsReadAt level .null :=
  isReadAt_of_text "null" (fun _ h => (Except.ok.inj h).symm) ⟨'n', _, rfl, by decide⟩
    fun _ _ _ => rfl

theorem isReadAt_boolean (level : Nat) (b : Bool) : IsReadAt level (.boolean b) := by
  refine isReadAt_of_text (if b then "true" else "false") (fun _ h => (Except.ok.inj h).symm) ?_ ?_
  · cases b <;> exact ⟨_, _, rfl, by decide⟩
  · intro fuel rest _
    cases b <;> rfl

theorem toList_quoted_append (s : CodeText) (rest : List Char) :
    (quoted s).toList ++ rest = '"' :: (s.flatMap escaped ++ '"' :: rest) := by
  simp [quoted]

theorem startsValue_quoted (s : CodeText) : StartsValue (quoted s).toList :=
  ⟨'"', s.flatMap escaped ++ ['"'], by simp [quoted], by decide⟩

theorem isReadAt_text (level : Nat) (s : CodeText) : IsReadAt level (.text s) := by
  refine isReadAt_of_text (quoted s) (fun _ h => (Except.ok.inj h).symm)
    (startsValue_quoted s) ?_
  intro fuel rest _
  rw [toList_quoted_append, value?, if_pos rfl, text?_flatMap_escaped, Option.map_some]
  rfl

theorem startsValue_number {c : Char} (hc : c = '-' ∨ Text.isAsciiDigit c = true)
    (rest : List Char) : StartsValue (c :: rest) := by
  have hne {d : Char} (hminus : d ≠ '-') (hdigit : Text.isAsciiDigit d = false) : c ≠ d := by
    rintro rfl
    rcases hc with hc | hc
    · exact hminus hc
    · rw [hdigit] at hc
      cases hc
  refine ⟨c, rest, rfl, ?_, ?_⟩
  · simp only [isGap, Bool.or_eq_false_iff, beq_eq_false_iff_ne]
    exact ⟨⟨⟨hne (by decide) (by decide), hne (by decide) (by decide)⟩,
      hne (by decide) (by decide)⟩, hne (by decide) (by decide)⟩
  · simp only [closes, Bool.or_eq_false_iff, beq_eq_false_iff_ne]
    exact ⟨hne (by decide) (by decide), hne (by decide) (by decide)⟩

theorem startsValue_integer (i : Int) : StartsValue (Decimal.text i).toList := by
  cases htext : (Decimal.text i).toList with
  | nil =>
      rcases Int.lt_or_le i 0 with hi | hi
      · rw [Decimal.toList_text_of_neg hi] at htext
        cases htext
      · rw [Decimal.toList_text_of_nonneg hi] at htext
        exact absurd htext Nat.toDigits_ne_nil
  | cons c others =>
      have hc : c ∈ (Decimal.text i).toList := htext ▸ List.mem_cons_self
      exact startsValue_number (Decimal.mem_text hc) others

theorem startsValue_float {x : Binary64} (hx : x.IsNormal) : StartsValue (floatText x).toList := by
  cases x with
  | finite negative m e =>
      obtain ⟨whole, places, exponent, htext, hwhole, -, -⟩ := exists_floatText hx negative
      obtain ⟨d, others, rfl, hd⟩ := hwhole.exists_cons
      rw [htext]
      cases negative with
      | true => exact startsValue_number (.inl rfl) _
      | false => exact startsValue_number (.inr hd) _
  | infinite negative => cases negative <;> exact ⟨_, _, rfl, by decide⟩
  | nan => exact ⟨_, _, rfl, by decide⟩

theorem isReadAt_integer (level : Nat) (i : Int) : IsReadAt level (.integer i) := by
  refine isReadAt_of_text (Decimal.text i) (fun _ h => (Decimal.text?_eq_ok_iff.mp h).2)
    (startsValue_integer i) ?_
  intro fuel rest hrest
  rw [value?_integer i hrest]
  rfl

theorem isReadAt_float (level : Nat) {x : Binary64} (hx : x.IsNormal) :
    IsReadAt level (.float x) := by
  refine isReadAt_of_text (floatText x) (fun _ h => (Except.ok.inj h).symm)
    (startsValue_float hx) ?_
  intro fuel rest hrest
  have hfinite : (Json.float x).isFinite = x.isFinite := rfl
  rw [hfinite]
  split
  · next h => exact value?_float hx h hrest fuel
  · next h => exact value?_of_not_isFinite (Bool.eq_false_iff.mpr h) _ rest

end Reading

section Brackets

variable {α : Type} {element? : List Char → Option (α × List Char)} {good : α → Bool}
  {taken : α → α} {as : List α} {parts : List String} {opening closing : Char}
  {level outer count : Nat} {rest : List Char}

/-- What stands between parts. -/
def separator (level : Nat) : String :=
  "," ++ lineStart level

/-- What stands after the last part. -/
def ending (level : Nat) (closing : Char) (rest : List Char) : List Char :=
  (lineStart level).toList ++ closing :: rest

theorem toList_intercalate_cons (level : Nat) (part next : String) (others : List String)
    (rest : List Char) :
    ((separator level).intercalate (part :: next :: others)).toList ++ rest =
      part.toList ++ ',' :: ((lineStart level).toList ++
        (((separator level).intercalate (next :: others)).toList ++ rest)) := by
  rw [String.intercalate_cons_cons, separator]
  simp

/-- Parts begin like the first of them. -/
theorem startsValue_intercalate {part : String} (h : StartsValue part.toList) (level : Nat)
    (others : List String) (rest : List Char) :
    StartsValue (((separator level).intercalate (part :: others)).toList ++ rest) := by
  cases others with
  | nil =>
      rw [String.intercalate_singleton]
      exact h.append rest
  | cons next others =>
      rw [toList_intercalate_cons]
      exact h.append _

/-- No part is longer than all of them together, and with something before them, the parts have no
more of them than characters. -/
theorem length_intercalate_bounds (level : Nat) (parts : List String) :
    (∀ part ∈ parts,
      part.toList.length ≤ ((separator level).intercalate parts).toList.length) ∧
      parts.length ≤ ((separator level).intercalate parts).toList.length + 1 := by
  induction parts with
  | nil => simp
  | cons first others ih =>
      cases others with
      | nil => simp
      | cons next others =>
          have hlength := congrArg List.length
            (toList_intercalate_cons level first next others [])
          simp only [List.append_nil, List.length_append, List.length_cons] at hlength
          obtain ⟨hparts, hcount⟩ := ih
          rw [List.length_cons] at hcount ⊢
          refine ⟨fun part h => ?_, by rw [List.length_cons]; omega⟩
          rcases List.mem_cons.mp h with rfl | h
          · omega
          · have := hparts part h
            omega

theorem isGap_of_closes {c : Char} (h : closes c = true) : isGap c = false := by
  rcases Bool.or_eq_true_iff.mp h with h | h
  · rw [eq_of_beq h]
    decide
  · rw [eq_of_beq h]
    decide

/-- Elements are read up to the closing bracket, if all of them are good. The induction goes from
element to element: what follows one is the next after a comma, or the end. -/
theorem elements?_intercalate (hne : parts ≠ []) (hclosing : closes closing = true)
    (hparts : List.Forall₂ (IsRead element? good taken) as parts) (hcount : parts.length ≤ count) :
    elements? element? closing count
        (((separator level).intercalate parts).toList ++ ending outer closing rest) =
      if as.all good then some (as.map taken, rest) else none := by
  induction hparts generalizing count with
  | nil => exact absurd rfl hne
  | @cons a part as others ha hothers ih =>
      obtain ⟨count, rfl⟩ := Nat.exists_eq_add_one_of_ne_zero (n := count) (by
        rw [List.length_cons] at hcount
        omega)
      have hlater : others.length ≤ count := Nat.le_of_succ_le_succ hcount
      rw [List.all_cons]
      cases hothers with
      | nil =>
          have hends : EndsNumber (ending outer closing rest) := endsNumber_lineStart outer _
          have hskip : skipGaps (ending outer closing rest) = closing :: rest := by
            rw [ending, skipGaps_lineStart, skipGaps_cons (isGap_of_closes hclosing)]
          rw [String.intercalate_singleton, elements?, ha.reads _ hends]
          cases good a <;> simp [hskip]
      | @cons b next as others hb hothers =>
          have hcomma : ',' ≠ closing := by
            rintro rfl
            cases hclosing
          have hread := ih (List.cons_ne_nil _ _) hlater
          have hends := endsNumber_cons (c := ',') (by decide) ((lineStart level).toList ++
            (((separator level).intercalate (next :: others)).toList ++ ending outer closing rest))
          have hstarts := startsValue_intercalate hb.starts level others
            (ending outer closing rest)
          rw [toList_intercalate_cons, elements?, ha.reads _ hends]
          cases good a with
          | false => rfl
          | true =>
              simp only [if_true, Option.bind_eq_bind, Option.bind_some, Bool.true_and]
              rw [skipGaps_cons (by decide)]
              simp only [if_neg hcomma, if_true, skipGaps_lineStart, hstarts.skipGaps_eq, hread]
              cases (b :: as).all good <;> rfl

/-- What stands between the brackets, the closing one and what follows. -/
def inside (level : Nat) (closing : Char) (parts : List String) (rest : List Char) : List Char :=
  if parts.isEmpty then closing :: rest
  else (lineStart (level + 1)).toList ++
    (((separator (level + 1)).intercalate parts).toList ++ ending level closing rest)

theorem toList_enclosed (level : Nat) (opening closing : Char) (parts : List String)
    (rest : List Char) :
    (enclosed level (String.singleton opening) (String.singleton closing) parts).toList ++ rest =
      opening :: inside level closing parts rest := by
  rw [enclosed, inside]
  cases parts.isEmpty with
  | true => simp
  | false => simp [ending, separator]

/-- A part is shorter than what it is enclosed in. -/
theorem length_lt_enclosed {part : String} (h : part ∈ parts) (level : Nat)
    (opening closing : Char) :
    part.toList.length <
      (enclosed level (String.singleton opening) (String.singleton closing) parts).toList.length := by
  have hlength := congrArg List.length (toList_enclosed level opening closing parts [])
  have hbound := (length_intercalate_bounds (level + 1) parts).1 part h
  have hempty : parts.isEmpty = false := by
    cases parts with
    | nil => cases h
    | cons => rfl
  rw [inside, hempty, if_neg Bool.false_ne_true] at hlength
  simp only [List.append_nil, List.length_cons, List.length_append] at hlength
  omega

theorem bracketed?_inside (hclosing : closes closing = true)
    (hparts : List.Forall₂ (IsRead element? good taken) as parts) :
    bracketed? element? closing (inside level closing parts rest) =
      if as.all good then some (as.map taken, rest) else none := by
  cases hparts with
  | nil =>
      rw [inside, bracketed?]
      simp only [List.isEmpty_nil, if_true, skipGaps_cons (isGap_of_closes hclosing), List.all_nil,
        List.map_nil]
  | @cons a part as others ha hothers =>
      have hcount : (part :: others).length ≤
          (inside level closing (part :: others) rest).length := by
        have hcount := (length_intercalate_bounds (level + 1) (part :: others)).2
        simp only [inside, List.isEmpty_cons, Bool.false_eq_true, if_false, List.length_append,
          ending, List.length_cons] at hcount ⊢
        omega
      have hread : elements? element? closing (inside level closing (part :: others) rest).length
          (((separator (level + 1)).intercalate (part :: others)).toList ++
            ending level closing rest) =
          if (a :: as).all good then some ((a :: as).map taken, rest) else none :=
        elements?_intercalate (List.cons_ne_nil _ _) hclosing (.cons ha hothers) hcount
      have hstarts := startsValue_intercalate ha.starts (level + 1) others
        (ending level closing rest)
      have hskip : skipGaps (inside level closing (part :: others) rest) =
          ((separator (level + 1)).intercalate (part :: others)).toList ++
            ending level closing rest := by
        rw [inside, List.isEmpty_cons, if_neg Bool.false_ne_true, skipGaps_lineStart,
          hstarts.skipGaps_eq]
      obtain ⟨c, cs, hc, -, hother⟩ := hstarts
      have hne : c ≠ closing := by
        rintro rfl
        rw [hclosing] at hother
        cases hother
      rw [hc] at hskip hread
      rw [bracketed?, hskip]
      simp only [if_neg hne, hread]

end Brackets

section Documents

variable {j : Json} {items : List Json} {members : List (CodeText × Json)} {name : CodeText}
  {part : String} {parts : List String} {level fuel : Nat}

theorem allItems_eq (p : Json → Bool) (items : List Json) :
    allItems p items = items.all (all p) := by
  induction items with
  | nil => rfl
  | cons j items ih => rw [allItems, ih, List.all_cons]

theorem allMembers_eq (p : Json → Bool) (members : List (CodeText × Json)) :
    allMembers p members = members.all fun e => all p e.2 := by
  induction members with
  | nil => rfl
  | cons e members ih => rw [allMembers, ih, List.all_cons]

theorem joinedItems_eq (items : List Json) : joinedItems items = items.map joined := by
  induction items with
  | nil => rfl
  | cons j items ih => rw [joinedItems, ih, List.map_cons]

theorem joinedMembers_eq (members : List (CodeText × Json)) :
    joinedMembers members = members.map joinedMember := by
  induction members with
  | nil => rfl
  | cons e members ih => rw [joinedMembers, ih, List.map_cons, joinedMember]

theorem isFinite_list (items : List Json) : (Json.list items).isFinite = items.all isFinite := by
  rw [isFinite, all, allItems_eq]
  exact Bool.true_and _

theorem isFinite_object (members : List (CodeText × Json)) :
    (Json.object members).isFinite = members.all fun e => e.2.isFinite := by
  rw [isFinite, all, allMembers_eq]
  exact Bool.true_and _

/-- What is enclosed in brackets begins like a value. -/
theorem startsValue_enclosed {opening : Char} (h : StartsValue [opening]) (level : Nat)
    (closing : Char) (parts : List String) :
    StartsValue
      (enclosed level (String.singleton opening) (String.singleton closing) parts).toList := by
  have htext := toList_enclosed level opening closing parts []
  rw [List.append_nil] at htext
  rw [htext]
  exact h.append _

/-- The texts of items are those of each item, in order. -/
theorem forall₂_itemTexts (h : itemTexts level items = .ok parts) :
    List.Forall₂ (fun j part => textAt level j = .ok part) items parts := by
  induction items generalizing parts with
  | nil =>
      cases h
      exact .nil
  | cons j items ih =>
      rw [itemTexts] at h
      obtain ⟨text, htext, h⟩ := bind_eq_ok_iff.mp h
      obtain ⟨others, hothers, h⟩ := bind_eq_ok_iff.mp h
      cases h
      exact .cons htext (ih hothers)

/-- The texts of members are those of each member, in order. -/
theorem forall₂_memberTexts (h : memberTexts level members = .ok parts) :
    List.Forall₂ (fun e part => ∃ text, textAt level e.2 = .ok text ∧
      part = quoted e.1 ++ ": " ++ text) members parts := by
  induction members generalizing parts with
  | nil =>
      cases h
      exact .nil
  | cons e members ih =>
      rw [memberTexts] at h
      obtain ⟨text, htext, h⟩ := bind_eq_ok_iff.mp h
      obtain ⟨others, hothers, h⟩ := bind_eq_ok_iff.mp h
      cases h
      exact .cons ⟨text, htext, rfl⟩ (ih hothers)

/-- A list is read if its items are. -/
theorem isReadAt_list (hitems : ∀ j ∈ items, IsReadAt (level + 1) j) :
    IsReadAt level (.list items) := by
  intro text h fuel hfuel
  rw [textAt] at h
  obtain ⟨parts, hparts, htext⟩ := bind_eq_ok_iff.mp h
  cases htext
  have hstarts : StartsValue (enclosed level "[" "]" parts).toList :=
    startsValue_enclosed ⟨'[', [], rfl, by decide⟩ level ']' parts
  obtain ⟨fuel, rfl⟩ := hstarts.exists_fuel hfuel
  have heach : List.Forall₂ (IsRead (value? fuel) isFinite joined) items parts := by
    refine forall₂_imp_of_mem (forall₂_itemTexts hparts) fun j hj part hpart htext => ?_
    have hlength := (length_lt_enclosed hpart level '[' ']').trans_le hfuel
    exact hitems j hj part htext fuel (Nat.le_of_lt_succ hlength)
  refine ⟨hstarts, fun rest _ => ?_⟩
  have hsplit : (enclosed level "[" "]" parts).toList ++ rest = '[' :: inside level ']' parts rest :=
    toList_enclosed level '[' ']' parts rest
  rw [hsplit, value?, if_neg (by decide), if_pos rfl, bracketed?_inside (by decide) heach,
    isFinite_list, joined, joinedItems_eq]
  cases items.all isFinite <;> rfl

theorem member?_quoted (name : CodeText) (element? : List Char → Option (Json × List Char))
    {cs : List Char} (hcs : StartsValue cs) :
    member? element? ((quoted name).toList ++ ':' :: ' ' :: cs) =
      (element? cs).map fun read => ((name.joined, read.1), read.2) := by
  have hskip : skipGaps (' ' :: cs) = cs := by
    rw [skipGaps, List.dropWhile_cons_of_pos (by decide)]
    exact hcs.skipGaps_eq
  rw [toList_quoted_append, member?, if_pos rfl, text?_flatMap_escaped]
  simp only [Option.bind_eq_bind, Option.bind_some]
  rw [skipGaps_cons (by decide)]
  simp only [hskip]
  cases element? cs <;> rfl

/-- A member is read if its value is. -/
theorem IsRead.member (h : IsRead (value? fuel) isFinite joined j part) (name : CodeText) :
    IsRead (member? (value? fuel)) (fun e => e.2.isFinite) joinedMember (name, j)
      (quoted name ++ ": " ++ part) where
  starts := by
    rw [String.toList_append, String.toList_append]
    exact ((startsValue_quoted name).append _).append _
  reads rest hrest := by
    have htext : (quoted name ++ ": " ++ part).toList ++ rest =
        (quoted name).toList ++ ':' :: ' ' :: (part.toList ++ rest) := by simp
    rw [htext, member?_quoted name _ (h.starts.append rest), h.reads rest hrest]
    cases j.isFinite <;> rfl

/-- An object is read if the values of its members are. -/
theorem isReadAt_object (hmembers : ∀ e ∈ members, IsReadAt (level + 1) e.2) :
    IsReadAt level (.object members) := by
  intro text h fuel hfuel
  rw [textAt] at h
  obtain ⟨parts, hparts, htext⟩ := bind_eq_ok_iff.mp h
  cases htext
  have hstarts : StartsValue (enclosed level "\x7b" "\x7d" parts).toList :=
    startsValue_enclosed ⟨'\x7b', [], rfl, by decide⟩ level '\x7d' parts
  obtain ⟨fuel, rfl⟩ := hstarts.exists_fuel hfuel
  have heach : List.Forall₂ (IsRead (member? (value? fuel)) (fun e => e.2.isFinite) joinedMember)
      members parts := by
    refine forall₂_imp_of_mem (forall₂_memberTexts hparts) fun e he part hpart htext => ?_
    obtain ⟨text, htext, rfl⟩ := htext
    have hlength := (length_lt_enclosed hpart level '\x7b' '\x7d').trans_le hfuel
    have hshorter : text.toList.length ≤ (quoted e.1 ++ ": " ++ text).toList.length := by
      rw [String.toList_append, List.length_append]
      exact Nat.le_add_left _ _
    have hread := hmembers e he text htext fuel (hshorter.trans (Nat.le_of_lt_succ hlength))
    exact hread.member e.1
  refine ⟨hstarts, fun rest _ => ?_⟩
  have hsplit : (enclosed level "\x7b" "\x7d" parts).toList ++ rest =
      '\x7b' :: inside level '\x7d' parts rest := toList_enclosed level '\x7b' '\x7d' parts rest
  rw [hsplit, value?, if_neg (by decide), if_neg (by decide), if_pos rfl,
    bracketed?_inside (by decide) heach, isFinite_object]
  rw [joined, joinedMembers_eq]
  cases members.all fun e => e.2.isFinite <;> rfl

/-- The induction goes along the document: one case for every kind of value. -/
theorem IsTidy.isReadAt (h : IsTidy j) : ∀ level, IsReadAt level j := by
  induction h with
  | null => exact isReadAt_null
  | boolean b => exact fun level => isReadAt_boolean level b
  | text s => exact fun level => isReadAt_text level s
  | integer i => exact fun level => isReadAt_integer level i
  | float h => exact fun level => isReadAt_float level h
  | list _ ih => exact fun level => isReadAt_list fun j hj => ih j hj (level + 1)
  | object _ _ ih => exact fun level => isReadAt_object fun e he => ih e he (level + 1)

theorem endsNumber_of_isGap {rest : List Char} (h : ∀ c ∈ rest, isGap c = true) :
    EndsNumber rest := by
  intro c hc
  have hgap := h c (List.mem_of_mem_head? hc)
  simp only [isGap, Bool.or_eq_true, beq_iff_eq] at hgap
  rcases hgap with ((rfl | rfl) | rfl) | rfl <;> decide

/-- The text of a document, with any blanks after it, is read as the document with its pairs joined
if all floating-point numbers in it are finite, and else not at all. -/
theorem IsTidy.read?_render (h : IsTidy j) {text blanks : String} (htext : render j = .ok text)
    (hblanks : ∀ c ∈ blanks.toList, isGap c = true) :
    read? (text ++ blanks) = if j.isFinite then some j.joined else none := by
  have hall : skipGaps blanks.toList = [] := List.dropWhile_eq_nil_iff.mpr hblanks
  have hread := h.isReadAt 0 text htext (text ++ blanks).toList.length (by
    rw [String.toList_append, List.length_append]
    exact Nat.le_add_right _ _)
  have hvalue := hread.reads blanks.toList (endsNumber_of_isGap hblanks)
  rw [← String.toList_append] at hvalue
  have hskip : skipGaps (text ++ blanks).toList = (text ++ blanks).toList := by
    rw [String.toList_append]
    exact (hread.starts.append _).skipGaps_eq
  rw [read?, hskip, hvalue]
  cases j.isFinite with
  | false => rfl
  | true => simp [hall]

end Documents

section Joined

variable {j : Json}

theorem isPairless_list (items : List Json) :
    (Json.list items).isPairless = items.all isPairless := by
  rw [isPairless, all, allItems_eq]
  exact Bool.true_and _

theorem isPairless_object_iff {members : List (CodeText × Json)} :
    (Json.object members).isPairless = true ↔
      ∀ e ∈ members, e.1.IsPairless ∧ e.2.isPairless = true := by
  rw [isPairless, all, allMembers_eq, hasPairlessTexts, Bool.and_eq_true, List.all_eq_true,
    List.all_eq_true, ← forall₂_and]
  simp only [decide_eq_true_eq]
  rfl

/-- What is written into a table without loss is the table, if its keys are distinct. -/
theorem eq_of_ofList_eq {entries t : List (CodeText × Json)} (h : Table.ofList entries = t)
    (hn : (t.map (·.1)).Nodup) (hlength : entries.length ≤ t.length) : entries = t := by
  have hsubset : t ⊆ entries := by
    intro e he
    rw [← h] at he
    exact Table.mem_of_mem_ofList he
  have hperm : t.Perm entries :=
    (List.subperm_of_subset hn.of_map hsubset).perm_of_length_le hlength
  rw [← h, Table.ofList_eq_self ((hperm.map _).nodup_iff.mp hn)]

/-- Joining pairs keeps a document exactly if it has none: one case for every kind of value. -/
theorem IsTidy.joined_eq_self_iff (h : IsTidy j) : j.joined = j ↔ j.isPairless = true := by
  induction h with
  | null => exact iff_of_true rfl rfl
  | boolean b => exact iff_of_true rfl rfl
  | integer i => exact iff_of_true rfl rfl
  | float h => exact iff_of_true rfl rfl
  | text s =>
      rw [joined, Json.text.injEq, CodeText.joined_eq_self_iff]
      exact decide_eq_true_iff.symm
  | @list items _ ih =>
      have hitems : items.map joined = items ↔ ∀ j ∈ items, joined j = j := by
        conv_lhs => rhs; rw [← List.map_id items]
        exact List.map_inj_left
      rw [joined, joinedItems_eq, Json.list.injEq, hitems, isPairless_list, List.all_eq_true]
      exact forall₂_congr ih
  | @object members distinct _ ih =>
      have hmembers : members.map joinedMember = members ↔ ∀ e ∈ members, joinedMember e = e := by
        conv_lhs => rhs; rw [← List.map_id members]
        exact List.map_inj_left
      have htable : Table.ofList (members.map joinedMember) = members ↔
          members.map joinedMember = members := by
        constructor
        · intro h
          exact eq_of_ofList_eq h distinct (List.length_map _).le
        · intro h
          rw [h, Table.ofList_eq_self distinct]
      rw [joined, joinedMembers_eq, Json.object.injEq, htable, hmembers, isPairless_object_iff]
      refine forall₂_congr fun e he => ?_
      rw [joinedMember, Prod.ext_iff, CodeText.joined_eq_self_iff, ih e he]

end Joined

section Written

mutual

/-- A document has a text exactly if its integers can be written: one case for every kind of value.
-/
theorem isWrittenIff_textAt (level : Nat) :
    ∀ j : Json, IsWrittenIff (textAt level j) (j.isShort = true)
  | .null => isWrittenIff_ok _ rfl
  | .boolean _ => isWrittenIff_ok _ rfl
  | .text _ => isWrittenIff_ok _ rfl
  | .float _ => isWrittenIff_ok _ rfl
  | .integer i => by
      rw [textAt, isShort, all, hasShortInteger]
      exact (Decimal.isWrittenIff_text? i).congr decide_eq_true_iff.symm
  | .list items => by
      rw [textAt, isShort, all, hasShortInteger.eq_def, Bool.true_and]
      exact (isWrittenIff_itemTexts (level + 1) items).bind_ok _
  | .object members => by
      rw [textAt, isShort, all, hasShortInteger.eq_def, Bool.true_and]
      exact (isWrittenIff_memberTexts (level + 1) members).bind_ok _

theorem isWrittenIff_itemTexts (level : Nat) : ∀ items : List Json,
    IsWrittenIff (itemTexts level items) (allItems hasShortInteger items = true)
  | [] => isWrittenIff_ok _ rfl
  | j :: rest => by
      rw [itemTexts, allItems, Bool.and_eq_true]
      exact (isWrittenIff_textAt level j).bind fun _ => (isWrittenIff_itemTexts level rest).bind_ok _

theorem isWrittenIff_memberTexts (level : Nat) : ∀ members : List (CodeText × Json),
    IsWrittenIff (memberTexts level members) (allMembers hasShortInteger members = true)
  | [] => isWrittenIff_ok _ rfl
  | (_, j) :: rest => by
      rw [memberTexts, allMembers, Bool.and_eq_true]
      exact (isWrittenIff_textAt level j).bind fun _ =>
        (isWrittenIff_memberTexts level rest).bind_ok _

end

end Written

end MarkerLint.Json
