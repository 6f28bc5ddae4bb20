import Mathlib.Data.List.Basic
import MarkerLint.Template

/-!
# Plain templates

A plain template is text with fields: each percent sign is written twice or begins a field
`%(name)s`. Filling one puts the text of every field in its place and keeps all other characters,
whatever the texts hold; it fails only if a field is missing.
-/

namespace MarkerLint.Template

/-- A piece of a plain template. -/
inductive Piece where
  /-- Characters that stand for themselves. -/
  | literal (cs : List Char)
  /-- The place of a field. -/
  | field (name : List Char)
deriving DecidableEq, Repr

/-- A piece as a template writes it. -/
def Piece.source : Piece → List Char
  | .literal cs => cs.flatMap fun c => if c = '%' then ['%', '%'] else [c]
  | .field name => '%' :: '(' :: name ++ [')', 's']

/-- What stands for a piece in the filled template; none if its field is missing. -/
def Piece.filled? (data : Table CodeText) : Piece → Option CodeText
  | .literal cs => some (cs.map .char)
  | .field name => data.get? (String.ofList name)

/-- A field whose name holds no brackets, or characters that stand for themselves. -/
def Piece.IsPlain : Piece → Prop
  | .literal _ => True
  | .field name => '(' ∉ name ∧ ')' ∉ name

/-- The pieces of a plain template, after the name of an unfinished field in reverse. -/
def piecesFrom : Option (List Char) → List Char → Option (List Piece)
  | none, [] => some []
  | none, '%' :: '%' :: rest => (.literal ['%'] :: ·) <$> piecesFrom none rest
  | none, '%' :: '(' :: rest => piecesFrom (some []) rest
  | none, c :: rest => if c = '%' then none else (.literal [c] :: ·) <$> piecesFrom none rest
  | some _, [] => none
  | some name, ')' :: 's' :: rest => (.field name.reverse :: ·) <$> piecesFrom none rest
  | some name, c :: rest =>
      if c = '(' ∨ c = ')' then none else piecesFrom (some (c :: name)) rest

/-- The pieces of a template, if it is plain. -/
def pieces? (template : String) : Option (List Piece) :=
  piecesFrom none template.toList

/-- The names of the fields among pieces, in order. -/
def fieldsOf (pieces : List Piece) : List String :=
  pieces.filterMap fun
    | .literal _ => none
    | .field name => some (String.ofList name)

theorem fieldName?_append {name : List Char} (h : '(' ∉ name ∧ ')' ∉ name) (rest : List Char) :
    fieldName? 0 (name ++ ')' :: rest) = some (name, rest) := by
  induction name with
  | nil => simp [fieldName?]
  | cons c name ih =>
      have hc : c ≠ '(' ∧ c ≠ ')' := by
        constructor <;> rintro rfl <;> simp at h
      have hn : '(' ∉ name ∧ ')' ∉ name := by simp_all
      rw [List.cons_append, fieldName?, ih hn]
      · rfl
      · exact fun he => hc.2 he
      · exact fun he => hc.1 he

/-- A field in brackets is read as a directive that writes it as it stands. -/
theorem directive_field {name : List Char} (h : '(' ∉ name ∧ ')' ∉ name) (rest : List Char) :
    directive ('(' :: name ++ ')' :: 's' :: rest) =
      .ok (⟨some (String.ofList name), false, 0, none, 's'⟩, rest) := by
  simp only [List.cons_append, directive, field, fieldName?_append h]
  rfl

theorem toOption_map {ε α β : Type} (f : α → β) (x : Except ε α) :
    (f <$> x).toOption = f <$> x.toOption := by
  cases x <;> rfl

/-- A field is filled with its text, if there is one. -/
theorem toOption_fillDirective_field {name : List Char} (h : '(' ∉ name ∧ ')' ∉ name)
    (room : Nat) (data : Table CodeText) (argument : Argument) (rest : List Char) :
    (fillDirective room data argument ('(' :: name ++ ')' :: 's' :: rest)).toOption =
      ((Piece.field name).filled? data).map fun text => (text, rest) := by
  have hd : directiveAfterField (some (String.ofList name)) ('s' :: rest) =
      .ok (⟨some (String.ofList name), false, 0, none, 's'⟩, rest) := rfl
  simp only [fillDirective, List.cons_append, field, fieldName?_append h, ok_bind, argumentOf,
    Piece.filled?]
  cases data.get? (String.ofList name) with
  | none => rfl
  | some text =>
      simp only [ok_bind, hd, written, beq_self_eq_true, if_true, Nat.zero_le]
      simp [laidOut, Except.toOption]

theorem toOption_fillFrom_field {name : List Char} (h : '(' ∉ name ∧ ')' ∉ name) (room : Nat)
    (data : Table CodeText) (argument : Argument) (rest : List Char) :
    (fillFrom room data argument ((Piece.field name).source ++ rest)).toOption =
      ((Piece.field name).filled? data).bind fun text =>
        (text ++ ·) <$> (fillFrom room data .used rest).toOption := by
  have hd := toOption_fillDirective_field h room data argument rest
  have hs : (Piece.field name).source ++ rest = '%' :: ('(' :: name ++ ')' :: 's' :: rest) := by
    simp [Piece.source]
  rw [hs, List.cons_append, fillFrom]
  · rw [← List.cons_append]
    split
    · next he =>
        rw [he] at hd
        rw [Option.map_eq_none_iff.mp hd.symm]
        rfl
    · next he =>
        rw [he] at hd
        obtain ⟨text, htext, hpair⟩ := Option.map_eq_some_iff.mp hd.symm
        cases hpair
        rw [htext, toOption_map]
        rfl
  · simp

theorem fillFrom_literal (room : Nat) (data : Table CodeText) (argument : Argument)
    (cs rest : List Char) :
    fillFrom room data argument ((Piece.literal cs).source ++ rest) =
      (cs.map .char ++ ·) <$> fillFrom room data argument rest := by
  induction cs with
  | nil =>
      cases h : fillFrom room data argument rest <;> simp [Piece.source, h]
  | cons c cs ih =>
      simp only [Piece.source, List.flatMap_cons] at ih ⊢
      have hmap : (.char c :: ·) <$> ((cs.map .char ++ ·) <$> fillFrom room data argument rest) =
          ((c :: cs).map .char ++ ·) <$> fillFrom room data argument rest := by
        cases fillFrom room data argument rest <;> rfl
      by_cases hc : c = '%'
      · subst hc
        rw [if_pos rfl, List.append_assoc, List.cons_append, List.cons_append, List.nil_append,
          fillFrom, ih, hmap]
      · rw [if_neg hc, List.append_assoc, List.cons_append, List.nil_append, fillFrom, ih, hmap]
        · exact fun _ he => absurd he hc
        · exact fun he => absurd he hc

/-- Filling a plain template fills its pieces, or fails with one of them. -/
theorem toOption_fillFrom_pieces {pieces : List Piece} (h : ∀ p ∈ pieces, p.IsPlain) (room : Nat)
    (data : Table CodeText) (argument : Argument) :
    (fillFrom room data argument (pieces.flatMap Piece.source)).toOption =
      (pieces.mapM (Piece.filled? data)).map List.flatten := by
  induction pieces generalizing argument with
  | nil => simp [fillFrom, Except.toOption]
  | cons p pieces ih =>
      have hrest := ih fun q hq => h q (List.mem_cons_of_mem _ hq)
      rw [List.flatMap_cons]
      cases p with
      | literal cs =>
          rw [fillFrom_literal, toOption_map, hrest]
          cases hm : pieces.mapM (Piece.filled? data) <;> simp [Piece.filled?, hm]
      | field name =>
          rw [toOption_fillFrom_field (h _ List.mem_cons_self), List.mapM_cons]
          cases hf : (Piece.field name).filled? data with
          | none => simp
          | some text =>
              cases hm : pieces.mapM (Piece.filled? data) <;> simp [hrest, hm]

/-- The pieces that were read are plain, and writing them gives the template back. -/
theorem source_of_piecesFrom {open? : Option (List Char)} {cs : List Char} {pieces : List Piece}
    (hopen : ∀ name ∈ open?, '(' ∉ name ∧ ')' ∉ name) (h : piecesFrom open? cs = some pieces) :
    (∀ p ∈ pieces, p.IsPlain) ∧
      pieces.flatMap Piece.source = (open?.elim [] fun name => '%' :: '(' :: name.reverse) ++ cs := by
  induction open?, cs using piecesFrom.induct generalizing pieces with
  | case1 =>
      simp only [piecesFrom, Option.some.injEq] at h
      subst h
      simp
  | case2 rest ih =>
      obtain ⟨ps, hps, rfl⟩ := Option.map_eq_some_iff.1 h
      have hr := ih (by simp) hps
      simp_all [Piece.IsPlain, Piece.source]
  | case3 rest ih =>
      simpa using ih (by simp) h
  | case4 rest h1 h2 =>
      rw [piecesFrom] at h <;> simp_all
  | case5 c rest h1 h2 hc ih =>
      rw [piecesFrom, if_neg hc] at h <;> try assumption
      obtain ⟨ps, hps, rfl⟩ := Option.map_eq_some_iff.1 h
      have hr := ih (by simp) hps
      simp_all [Piece.IsPlain, Piece.source]
  | case6 name => simp [piecesFrom] at h
  | case7 name rest ih =>
      obtain ⟨ps, hps, rfl⟩ := Option.map_eq_some_iff.1 h
      have hn := hopen name rfl
      have hr := ih (by simp) hps
      simp_all [Piece.IsPlain, Piece.source]
  | case8 name c rest hs hc =>
      rw [piecesFrom, if_pos hc] at h
      · cases h
      · exact hs
  | case9 name c rest hs hc ih =>
      rw [piecesFrom, if_neg hc] at h
      · have hn := hopen name rfl
        have hr := ih (by simp_all [eq_comm]) h
        simp_all
      · exact hs

/-- A plain template is filled piece by piece. -/
theorem fill?_eq_of_pieces? {template : String} {pieces : List Piece}
    (h : pieces? template = some pieces) (data : Table CodeText) :
    fill? template data =
      (pieces.mapM (Piece.filled? data)).map List.flatten := by
  obtain ⟨hplain, hsource⟩ := source_of_piecesFrom (by simp) h
  simp only [Option.elim_none, List.nil_append] at hsource
  rw [fill?, ← hsource, toOption_fillFrom_pieces hplain]

/-- All pieces can be filled if every field is there. -/
theorem mapM_filled?_isSome {pieces : List Piece} {data : Table CodeText}
    (h : ∀ name ∈ fieldsOf pieces, name ∈ data.keys) :
    ∃ parts, pieces.mapM (Piece.filled? data) = some parts := by
  induction pieces with
  | nil => exact ⟨[], rfl⟩
  | cons p pieces ih =>
      cases p with
      | literal cs =>
          obtain ⟨parts, hparts⟩ := ih fun name hn => h name (by simpa [fieldsOf] using hn)
          exact ⟨cs.map .char :: parts, by simp [Piece.filled?, hparts]⟩
      | field name =>
          obtain ⟨parts, hparts⟩ := ih fun n hn => h n (by
            simp only [fieldsOf, List.filterMap_cons, List.mem_cons] at hn ⊢
            exact Or.inr hn)
          have hkey : String.ofList name ∈ data.keys := h _ (by simp [fieldsOf])
          cases hg : data.get? (String.ofList name) with
          | none => exact absurd hkey (Table.get?_eq_none_iff.mp hg)
          | some text => exact ⟨text :: parts, by simp [Piece.filled?, hg, hparts]⟩

/-- The pieces of a template that is given by its characters. -/
theorem pieces?_ofList (cs : List Char) : pieces? (String.ofList cs) = piecesFrom none cs := by
  rw [pieces?, String.toList_ofList]

theorem pieces?_append (s t : List Char) :
    pieces? (String.ofList s ++ String.ofList t) = piecesFrom none (s ++ t) := by
  rw [← String.ofList_append, pieces?_ofList]

theorem pieces?_append_append (s t u : List Char) :
    pieces? (String.ofList s ++ String.ofList t ++ String.ofList u) =
      piecesFrom none (s ++ t ++ u) := by
  rw [← String.ofList_append, pieces?_append]

theorem isEmpty_eq_false_of_pieces? {template : String} {p : Piece} {pieces : List Piece}
    (h : pieces? template = some (p :: pieces)) : template.isEmpty = false := by
  rw [Bool.eq_false_iff]
  intro he
  rw [String.isEmpty_iff.mp he] at h
  cases h

end MarkerLint.Template
