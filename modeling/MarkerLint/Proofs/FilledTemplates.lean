import MarkerLint.Proofs.PlainTemplate

/-!
# Filled templates

Filling a template ends in one of two ways whatever the template is: with its directives written, or
with the template as it stands. Every refusal of a directive is raised as an exception that is
caught, but for one: a directive that asks for more blanks than there is room for, which takes a
width. A plain template has none: it is filled with the texts of its fields as they are, or kept if
one of them is missing.
-/

namespace MarkerLint.Template

/-- The directives of a template, up to the first percent sign after which none is read. -/
def directives : List Char → List Directive
  | [] => []
  | '%' :: '%' :: rest => directives rest
  | '%' :: cs =>
      match h : directive cs with
      | .error _ => []
      | .ok (d, rest) =>
          have := directive_length h
          d :: directives rest
  | _ :: rest => directives rest
termination_by cs => cs.length

section Refusals

variable {cs rest : List Char} {e : Refusal}

theorem number_isCaught {limit : Nat} (h : number limit cs = .error e) :
    e.exception.isCaught = true := by
  unfold number at h
  split at h
  · cases h
    rfl
  · split at h
    · cases h
    · cases h
      rfl

theorem precision_isCaught (h : precision cs = .error e) : e.exception.isCaught = true := by
  unfold precision at h
  split at h
  · exact number_isCaught (map_eq_error_iff.mp h)
  · cases h

theorem field_isCaught (h : field cs = .error e) : e.exception.isCaught = true := by
  unfold field at h
  split at h
  · split at h
    · cases h
      rfl
    · cases h
  · cases h

theorem directiveAfterField_isCaught {f : Option String}
    (h : directiveAfterField f cs = .error e) : e.exception.isCaught = true := by
  rcases bind_eq_error_iff.mp h with hwidth | ⟨⟨width, afterWidth⟩, -, h⟩
  · exact number_isCaught hwidth
  rcases bind_eq_error_iff.mp h with hprecision | ⟨⟨p, afterPrecision⟩, -, h⟩
  · exact precision_isCaught hprecision
  simp only at h
  split at h
  · cases h
    rfl
  · cases h

theorem argumentOf_isCaught {data : Table CodeText} {argument : Argument} {f : Option String}
    (h : argumentOf data argument f = .error e) : e.exception.isCaught = true := by
  unfold argumentOf at h
  split at h
  · cases h
  · split at h
    · cases h
      rfl
    · cases h

theorem written_isCaught {data : Table CodeText} {letter : Char} {argument : Argument}
    (h : written data letter argument = .error e) : e.exception.isCaught = true := by
  unfold written at h
  cases argument with
  | used =>
      cases h
      rfl
  | fields | text =>
      simp only at h
      split_ifs at h <;> cases h <;> rfl

end Refusals

/-- No directive that is read asks for more than the greatest width. -/
theorem width_le_widthLimit {cs rest : List Char} {d : Directive}
    (h : directive cs = .ok (d, rest)) : d.width ≤ widthLimit := by
  obtain ⟨⟨f, afterField⟩, -, h⟩ := bind_eq_ok_iff.mp h
  obtain ⟨⟨width, afterWidth⟩, hwidth, h⟩ := bind_eq_ok_iff.mp h
  obtain ⟨⟨p, afterPrecision⟩, -, h⟩ := bind_eq_ok_iff.mp h
  have hle : width ≤ widthLimit := by
    unfold number at hwidth
    split at hwidth
    · cases hwidth
    · split at hwidth
      · next hle =>
          cases hwidth
          exact hle
      · cases hwidth
  simp only at h
  split at h
  · cases h
  · cases h
    exact hle

/-- A directive is refused with an exception that is caught however much room there is, or it is
read and writes a text, for which there is room or not. -/
theorem fillDirective_cases (data : Table CodeText) (argument : Argument) (cs : List Char) :
    (∃ e : Refusal, e.exception.isCaught = true ∧
      ∀ room, fillDirective room data argument cs = .error e) ∨
    ∃ d text rest, directive cs = .ok (d, rest) ∧
      ∀ room, fillDirective room data argument cs =
        if d.width ≤ room then .ok (laidOut d text, rest) else .error (.noRoom d.width) := by
  simp only [fillDirective, directive]
  cases hfield : field cs with
  | error e => exact .inl ⟨e, field_isCaught hfield, fun _ => rfl⟩
  | ok read =>
      obtain ⟨f, afterField⟩ := read
      simp only [ok_bind]
      cases hargument : argumentOf data argument f with
      | error e => exact .inl ⟨e, argumentOf_isCaught hargument, fun _ => rfl⟩
      | ok a =>
          simp only [ok_bind]
          cases hdirective : directiveAfterField f afterField with
          | error e => exact .inl ⟨e, directiveAfterField_isCaught hdirective, fun _ => rfl⟩
          | ok read =>
              obtain ⟨d, rest⟩ := read
              simp only [ok_bind]
              cases hwritten : written data d.letter a with
              | error e => exact .inl ⟨e, written_isCaught hwritten, fun _ => rfl⟩
              | ok text => exact .inr ⟨d, text, rest, rfl, fun _ => rfl⟩

section Steps

variable {room : Nat} {data : Table CodeText} {argument : Argument} {cs rest : List Char}
  (hcs : ∀ rest, cs ≠ '%' :: rest)

include hcs

theorem fillFrom_of_refused {e : Refusal} (h : fillDirective room data argument cs = .error e) :
    fillFrom room data argument ('%' :: cs) = .error e := by
  rw [fillFrom]
  · split
    · next h' =>
        cases h.symm.trans h'
        rfl
    · next h' => cases h.symm.trans h'
  · exact fun rest he => hcs rest he

theorem fillFrom_of_filled {text : CodeText}
    (h : fillDirective room data argument cs = .ok (text, rest)) :
    fillFrom room data argument ('%' :: cs) = (text ++ ·) <$> fillFrom room data .used rest := by
  rw [fillFrom]
  · split
    · next h' => cases h.symm.trans h'
    · next h' =>
        cases h.symm.trans h'
        rfl
  · exact fun rest he => hcs rest he

theorem directives_of_read {d : Directive} (h : directive cs = .ok (d, rest)) :
    directives ('%' :: cs) = d :: directives rest := by
  rw [directives]
  · split
    · next h' => cases h.symm.trans h'
    · next h' =>
        cases h.symm.trans h'
        rfl
  · exact fun rest he => hcs rest he

end Steps

/-- Filling where there is some room ends as it does where there is room for every width: with the
same text, or with the same exception, which is caught. It may end otherwise only for lack of room
for one of the directives. -/
inductive Agrees (room : Nat) (ds : List Directive) :
    Except Refusal CodeText → Except Refusal CodeText → Prop
  | filled (text : CodeText) : Agrees room ds (.ok text) (.ok text)
  | refused {e : Refusal} (h : e.exception.isCaught = true) : Agrees room ds (.error e) (.error e)
  | noRoom {d : Directive} (answer : Except Refusal CodeText) (hd : d ∈ ds)
      (hroom : room < d.width) : Agrees room ds (.error (.noRoom d.width)) answer

section Attempts

variable {room : Nat} {data : Table CodeText} {ds : List Directive}
  {attempted answer : Except Refusal CodeText}

theorem Agrees.map (h : Agrees room ds attempted answer) (f : CodeText → CodeText) :
    Agrees room ds (f <$> attempted) (f <$> answer) := by
  cases h with
  | filled cs => exact .filled (f cs)
  | refused he => exact .refused he
  | noRoom _ hd hroom => exact .noRoom _ hd hroom

theorem Agrees.cons (h : Agrees room ds attempted answer) (d : Directive) :
    Agrees room (d :: ds) attempted answer := by
  cases h with
  | filled cs => exact .filled cs
  | refused he => exact .refused he
  | noRoom _ hd hroom => exact .noRoom _ (List.mem_cons_of_mem d hd) hroom

theorem agrees_fillFrom (room : Nat) (data : Table CodeText) (argument : Argument)
    (cs : List Char) :
    Agrees room (directives cs) (fillFrom room data argument cs)
      (fillFrom widthLimit data argument cs) := by
  fun_induction fillFrom room data argument cs with
  | case1 argument =>
      rw [fillFrom]
      exact .filled []
  | case2 argument rest ih =>
      rw [fillFrom, directives]
      exact ih.map _
  | case3 argument cs hcs e hrefused =>
      rcases fillDirective_cases data argument cs with
        ⟨e', he', hfill⟩ | ⟨d, text, rest, hread, hfill⟩
      · cases hrefused.symm.trans (hfill room)
        rw [fillFrom_of_refused (fun rest he => hcs rest he) (hfill widthLimit)]
        exact .refused he'
      · rw [hfill room] at hrefused
        split at hrefused
        · cases hrefused
        · next hroom =>
            cases hrefused
            rw [directives_of_read (fun rest he => hcs rest he) hread]
            exact .noRoom _ List.mem_cons_self (Nat.not_le.mp hroom)
  | case4 argument cs hcs text rest hfilled hlength ih =>
      rcases fillDirective_cases data argument cs with
        ⟨e', -, hfill⟩ | ⟨d, text', rest', hread, hfill⟩
      · cases hfilled.symm.trans (hfill room)
      · rw [hfill room] at hfilled
        split at hfilled
        · cases hfilled
          have hwide := (hfill widthLimit).trans (if_pos (width_le_widthLimit hread))
          rw [fillFrom_of_filled (fun rest he => hcs rest he) hwide,
            directives_of_read (fun rest he => hcs rest he) hread]
          exact (ih.map _).cons d
        · cases hfilled
  | case5 argument c rest hpercent hc ih =>
      rw [fillFrom, directives]
      · exact ih.map _
      all_goals assumption

/-- Filling ends with the filled template or with the template itself; only a directive that there is
no room for is passed on. -/
theorem fillWithin_eq_or (room : Nat) (template : String) (data : Table CodeText) :
    fillWithin room template data = .ok (fill template data) ∨
      ∃ d ∈ directives template.toList, room < d.width ∧
        fillWithin room template data = .error (.noRoom d.width) := by
  have hagrees := agrees_fillFrom room data .fields template.toList
  rw [fillWithin, fill, fill?]
  generalize fillFrom room data .fields template.toList = attempted at hagrees ⊢
  generalize fillFrom widthLimit data .fields template.toList = answer at hagrees ⊢
  cases hagrees with
  | filled cs => exact .inl rfl
  | refused he => exact .inl (if_pos he)
  | noRoom _ hd hroom => exact .inr ⟨_, hd, hroom, rfl⟩

/-- Where there is room for every directive, filling always ends. -/
theorem fillWithin_eq_fill {template : String}
    (h : ∀ d ∈ directives template.toList, d.width ≤ room) :
    fillWithin room template data = .ok (fill template data) := by
  rcases fillWithin_eq_or room template data with hfill | ⟨d, hd, hroom, -⟩
  · exact hfill
  · exact absurd hroom (Nat.not_lt.mpr (h d hd))

end Attempts

/-- A piece with the texts of its field. -/
def Piece.text (value : String → CodeText) : Piece → CodeText
  | .literal cs => cs.map .char
  | .field name => value (String.ofList name)

/-- The template that pieces make up. -/
def ofPieces (pieces : List Piece) : String :=
  String.ofList (pieces.flatMap Piece.source)

section Pieces

variable {data : Table CodeText} {pieces : List Piece}

theorem directives_literal (cs rest : List Char) :
    directives ((Piece.literal cs).source ++ rest) = directives rest := by
  induction cs with
  | nil => rfl
  | cons c cs ih =>
      simp only [Piece.source, List.flatMap_cons] at ih ⊢
      by_cases hc : c = '%'
      · rw [if_pos hc, List.append_assoc, List.cons_append, List.cons_append, List.nil_append,
          directives, ih]
      · rw [if_neg hc, List.append_assoc, List.cons_append, List.nil_append, directives, ih]
        · exact fun _ he => absurd he hc
        · exact hc

theorem directives_field {name : List Char} (h : '(' ∉ name ∧ ')' ∉ name) (rest : List Char) :
    directives ((Piece.field name).source ++ rest) =
      ⟨some (String.ofList name), false, 0, none, 's'⟩ :: directives rest := by
  have hread := directive_field h rest
  have hs : (Piece.field name).source ++ rest = '%' :: ('(' :: name ++ ')' :: 's' :: rest) := by
    simp [Piece.source]
  rw [hs, directives_of_read _ hread]
  intro rest he
  cases he

/-- The directives of a plain template have no width. -/
theorem width_eq_zero (h : ∀ p ∈ pieces, p.IsPlain) :
    ∀ d ∈ directives (ofPieces pieces).toList, d.width = 0 := by
  rw [ofPieces, String.toList_ofList]
  induction pieces with
  | nil => simp [directives]
  | cons p pieces ih =>
      have hrest := ih fun q hq => h q (List.mem_cons_of_mem _ hq)
      rw [List.flatMap_cons]
      cases p with
      | literal cs => rwa [directives_literal]
      | field name =>
          rw [directives_field (h _ List.mem_cons_self)]
          exact List.forall_mem_cons.mpr ⟨rfl, hrest⟩

/-- A plain template is filled as its pieces are. -/
theorem fill_ofPieces (h : ∀ p ∈ pieces, p.IsPlain) (data : Table CodeText) :
    fill (ofPieces pieces) data =
      ((pieces.mapM (Piece.filled? data)).map List.flatten).getD (ofPieces pieces) := by
  rw [fill, fill?]
  conv_lhs => rw [ofPieces, String.toList_ofList, toOption_fillFrom_pieces h]
  cases pieces.mapM (Piece.filled? data) <;> rfl

/-- The fields of pieces are filled with the texts that there are for them. -/
theorem mapM_filled?_of_get? {value : String → CodeText}
    (h : ∀ name ∈ fieldsOf pieces, data.get? name = some (value name)) :
    pieces.mapM (Piece.filled? data) = some (pieces.map (Piece.text value)) := by
  induction pieces with
  | nil => rfl
  | cons p pieces ih =>
      cases p with
      | literal cs =>
          have hrest := ih fun name hn => h name (by simpa [fieldsOf] using hn)
          simp [Piece.filled?, Piece.text, hrest]
      | field name =>
          have hfields : fieldsOf (.field name :: pieces) = String.ofList name :: fieldsOf pieces := by
            simp [fieldsOf]
          rw [hfields] at h
          have hname := h _ List.mem_cons_self
          have hrest := ih fun n hn => h n (List.mem_cons_of_mem _ hn)
          simp [Piece.filled?, Piece.text, hname, hrest]

/-- Pieces are not filled if a field is missing. -/
theorem mapM_filled?_of_missing (h : ∃ name ∈ fieldsOf pieces, name ∉ data.keys) :
    pieces.mapM (Piece.filled? data) = none := by
  obtain ⟨name, hname, hkey⟩ := h
  induction pieces with
  | nil => cases hname
  | cons p pieces ih =>
      rw [List.mapM_cons]
      cases hfilled : p.filled? data with
      | none => rfl
      | some text =>
          have hrest : name ∈ fieldsOf pieces := by
            cases p with
            | literal cs => simpa [fieldsOf] using hname
            | field other =>
                have hother : String.ofList other ∈ data.keys := by
                  by_contra hn
                  rw [Piece.filled?, Table.get?_eq_none_iff.mpr hn] at hfilled
                  cases hfilled
                have hne : name ≠ String.ofList other := by
                  rintro rfl
                  exact hkey hother
                simpa [fieldsOf, hne] using hname
          rw [ih hrest]
          rfl

end Pieces

/-- A plain template is filled with the texts of its fields as they are if all of them are there, and
kept if one is missing. A template of any form is filled or kept, and nothing is passed on, if none of
its directives asks for a width beyond the room that there is; a plain one never does. -/
theorem filled_verbatim_or_kept (room : Nat) (data : Table CodeText) :
    (∀ pieces : List Piece, (∀ p ∈ pieces, p.IsPlain) →
      (∀ value : String → CodeText, (∀ name ∈ fieldsOf pieces, data.get? name = some (value name)) →
        fill (ofPieces pieces) data = pieces.flatMap (Piece.text value)) ∧
      ((∃ name ∈ fieldsOf pieces, name ∉ data.keys) →
        fill (ofPieces pieces) data = ofPieces pieces) ∧
      fillWithin room (ofPieces pieces) data = .ok (fill (ofPieces pieces) data)) ∧
    ∀ template : String, (∀ d ∈ directives template.toList, d.width ≤ room) →
      fillWithin room template data = .ok (fill template data) := by
  refine ⟨fun pieces hplain => ⟨?_, ?_, ?_⟩, fun template h => fillWithin_eq_fill h⟩
  · intro value hvalue
    rw [fill_ofPieces hplain, mapM_filled?_of_get? hvalue, List.flatMap_def]
    rfl
  · intro hmissing
    rw [fill_ofPieces hplain, mapM_filled?_of_missing hmissing]
    rfl
  · refine fillWithin_eq_fill fun d hd => ?_
    rw [width_eq_zero hplain d hd]
    exact Nat.zero_le room

/-- A text with the marks of templates in it is written as it is, a missing field keeps the template,
and so does a directive that is not closed. -/
theorem filled_verbatim_or_kept_marks :
    fill (ofPieces [.literal "5% ".toList, .field "a".toList]) [("a", "%(b)s)")] = "5% %(b)s)" ∧
      fill (ofPieces [.field "a".toList, .field "b".toList]) [("a", "%(b)s)")] =
        ofPieces [.field "a".toList, .field "b".toList] ∧
      (∀ d ∈ directives "%(a".toList, d.width ≤ 0) ∧
      fillWithin 0 "%(a" [("a", "%(b)s)")] = .ok (fill "%(a" [("a", "%(b)s)")]) := by
  obtain ⟨hpieces, hany⟩ := filled_verbatim_or_kept 0 [("a", "%(b)s)")]
  have hwidths : ∀ d ∈ directives "%(a".toList, d.width ≤ 0 := by
    have hnone : directives "%(a".toList = [] := by cbv
    rw [hnone]
    exact List.forall_mem_nil _
  refine ⟨(hpieces _ ?_).1 (fun _ => "%(b)s)") ?_, (hpieces _ ?_).2.1 ?_, hwidths, hany _ hwidths⟩
  · simp [Piece.IsPlain]
  · simp [fieldsOf, Table.get?]
  · simp [Piece.IsPlain]
  · exact ⟨"b", by simp [fieldsOf], by simp [Table.keys]⟩

/-- Without a width nothing is passed on; with one, a lack of room is. -/
example : fillWithin 5 "%(a)9s" [("a", "x")] = .error (.noRoom 9) := by cbv

end MarkerLint.Template
