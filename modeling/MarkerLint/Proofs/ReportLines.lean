import Mathlib.Data.List.TakeDrop
import Mathlib.Data.List.TakeWhile
import MarkerLint.Audit.Result

/-!
# Reading reports off lines

A text that goes into a line may itself hold line ends. Then the line is cut: its first part is all
that is left of the report, and the other parts are lines of their own. The head of a report is
found at its first colon where the path holds none, so the first part reads as a report exactly if
it ends in a symbol in brackets.
-/

namespace MarkerLint

namespace Text

/-- The characters that end a line. -/
def lineBreaks : List Char :=
  [10, 11, 12, 13, 28, 29, 30, 0x85, 0x2028, 0x2029].map Char.ofNat

theorem mem_lineBreaks {c : Char} (h : isLineBreak c = true) : c ∈ lineBreaks := by
  have hn : c.toNat ∈ [10, 11, 12, 13, 28, 29, 30, 0x85, 0x2028, 0x2029] := by
    simp [isLineBreak] at h ⊢
    omega
  rw [← Char.ofNat_toNat c]
  exact List.mem_map_of_mem hn

/-- A class of characters without line ends. -/
theorem isLineBreak_eq_false_of {p : Char → Bool} (hp : lineBreaks.any p = false) {c : Char}
    (h : p c = true) : isLineBreak c = false := by
  rw [← Bool.not_eq_true]
  intro hc
  rw [List.any_eq_true.mpr ⟨c, mem_lineBreaks hc, h⟩] at hp
  cases hp

theorem isDecimal_of_isAsciiDigit {c : Char} (h : isAsciiDigit c = true) : isDecimal c = true := by
  have hc : isAscii c = true := by
    simp only [isAsciiDigit, Char.le_def, UInt32.le_iff_toNat_le, Bool.and_eq_true,
      decide_eq_true_eq] at h
    have hle : c.toNat ≤ 57 := h.2
    simp only [isAscii, decide_eq_true_eq]
    omega
  rw [isDecimal, if_pos hc, h]

/-- What stands before the first line end. -/
def firstLine (cs : List Char) : List Char :=
  cs.takeWhile fun c => !isLineBreak c

/-- The lines after the first one of a text that is printed as a line. -/
def laterLines (cs : List Char) : List (List Char) :=
  (lines (cs ++ ['\n'])).tail

theorem firstLine_append {p : List Char} (hp : ∀ c ∈ p, isLineBreak c = false) (cs : List Char) :
    firstLine (p ++ cs) = p ++ firstLine cs := by
  rw [firstLine, List.takeWhile_append_of_pos]
  · rfl
  · intro c hc
    rw [hp c hc]
    rfl

theorem firstLine_eq_self {cs : List Char} (h : ∀ c ∈ cs, isLineBreak c = false) :
    firstLine cs = cs := by
  have happ := firstLine_append h []
  rwa [List.append_nil, show firstLine [] = [] from rfl, List.append_nil] at happ

theorem linesFrom_cons_of_isLineBreak {c : Char} (h : isLineBreak c = true) (hc : c ≠ '\r')
    (line cs : List Char) : linesFrom line (c :: cs) = line.reverse :: lines cs := by
  rw [linesFrom, if_pos h]
  · rfl
  · intro rest hr
    exact absurd hr hc

theorem linesFrom_cons_of_not_isLineBreak {c : Char} (h : isLineBreak c = false)
    (line cs : List Char) : linesFrom line (c :: cs) = linesFrom (c :: line) cs := by
  rw [linesFrom, h, if_neg (by simp)]
  rintro rest rfl
  cases h

theorem linesFrom_newline (line rest : List Char) :
    linesFrom line ('\n' :: rest) = line.reverse :: lines rest :=
  linesFrom_cons_of_isLineBreak rfl (by decide) line rest

theorem linesFrom_return (line : List Char) {cs : List Char} (h : cs.head? ≠ some '\n') :
    linesFrom line ('\r' :: cs) = line.reverse :: lines cs := by
  cases cs with
  | nil => rfl
  | cons c rest =>
      rw [linesFrom]
      · rfl
      · rintro rest' _ ⟨⟩
        exact h rfl

/-- A line feed ends a line whatever follows it. -/
theorem linesFrom_append_newline (line cs rest : List Char) :
    linesFrom line (cs ++ '\n' :: rest) = linesFrom line (cs ++ ['\n']) ++ lines rest := by
  fun_induction linesFrom line cs with
  | case1 line => simp [linesFrom_newline, lines, linesFrom]
  | case2 line => simp [linesFrom_newline, lines, linesFrom]
  | case3 line cs ih => simp [linesFrom, ih]
  | case4 line c cs hcs h ih =>
      by_cases hc : c = '\r'
      · subst hc
        cases cs with
        | nil => simp [linesFrom, lines]
        | cons d cs =>
            have hd : d ≠ '\n' := fun hd => hcs cs rfl (by rw [hd])
            have hreturn (more : List Char) : linesFrom line ('\r' :: d :: (cs ++ more)) =
                line.reverse :: lines (d :: (cs ++ more)) :=
              linesFrom_return line (by simpa using hd)
            simp only [List.cons_append, hreturn]
            exact congrArg _ ih
      · rw [List.cons_append, List.cons_append, linesFrom_cons_of_isLineBreak h hc,
          linesFrom_cons_of_isLineBreak h hc, List.cons_append]
        exact congrArg _ ih
  | case5 line c cs hcs h ih =>
      have hc : isLineBreak c = false := by simpa using h
      rw [List.cons_append, List.cons_append, linesFrom_cons_of_not_isLineBreak hc,
        linesFrom_cons_of_not_isLineBreak hc, ih]

theorem lines_append_newline (cs rest : List Char) :
    lines (cs ++ '\n' :: rest) = lines (cs ++ ['\n']) ++ lines rest :=
  linesFrom_append_newline [] cs rest

/-- Texts that are printed as lines one after the other give their lines one after the other. -/
theorem lines_flatMap (texts : List (List Char)) :
    lines (texts.flatMap (· ++ ['\n'])) = texts.flatMap fun cs => lines (cs ++ ['\n']) := by
  induction texts with
  | nil => rfl
  | cons cs rest ih =>
      rw [List.flatMap_cons, List.flatMap_cons, List.append_assoc, List.singleton_append,
        lines_append_newline, ih]

/-- The line before a line end is finished there, and what follows does not depend on it. -/
theorem linesFrom_of_isLineBreak {c : Char} (h : isLineBreak c = true) (cs : List Char) :
    ∃ rest, ∀ line, linesFrom line (c :: cs) = line.reverse :: lines rest := by
  by_cases hc : c = '\r'
  · subst hc
    by_cases hcs : cs.head? = some '\n'
    · obtain ⟨rest, rfl⟩ := List.head?_eq_some_iff.mp hcs
      exact ⟨rest, fun line => by rw [linesFrom, lines]⟩
    · exact ⟨cs, fun line => linesFrom_return line hcs⟩
  · exact ⟨cs, fun line => linesFrom_cons_of_isLineBreak h hc line cs⟩

theorem linesFrom_printed (line cs : List Char) :
    linesFrom line (cs ++ ['\n']) = (line.reverse ++ firstLine cs) :: laterLines cs := by
  induction cs generalizing line with
  | nil => simp [linesFrom_newline, firstLine, laterLines, lines]
  | cons c rest ih =>
      cases hc : isLineBreak c with
      | false =>
          have hlater : laterLines (c :: rest) = laterLines rest := by
            rw [laterLines, List.cons_append, lines, linesFrom_cons_of_not_isLineBreak hc, ih,
              List.tail_cons]
          rw [List.cons_append, linesFrom_cons_of_not_isLineBreak hc, ih, hlater]
          simp [firstLine, hc]
      | true =>
          obtain ⟨others, hothers⟩ := linesFrom_of_isLineBreak hc (rest ++ ['\n'])
          have hlater : laterLines (c :: rest) = lines others := by
            rw [laterLines, List.cons_append, lines, hothers, List.tail_cons]
          rw [List.cons_append, hothers, hlater]
          simp [firstLine, hc]

/-- A text that is printed as a line gives its first line and its later ones. -/
theorem lines_printed (cs : List Char) : lines (cs ++ ['\n']) = firstLine cs :: laterLines cs :=
  linesFrom_printed [] cs

theorem laterLines_append {p : List Char} (hp : ∀ c ∈ p, isLineBreak c = false) (cs : List Char) :
    laterLines (p ++ cs) = laterLines cs := by
  induction p with
  | nil => rfl
  | cons c rest ih =>
      have hc := hp c List.mem_cons_self
      rw [laterLines, List.cons_append, List.cons_append, lines,
        linesFrom_cons_of_not_isLineBreak hc, linesFrom_printed, List.tail_cons,
        ih fun d hd => hp d (List.mem_cons_of_mem _ hd)]

/-- A text without line ends that is printed as a line is a line. -/
theorem lines_unbroken {cs : List Char} (h : ∀ c ∈ cs, isLineBreak c = false) :
    lines (cs ++ ['\n']) = [cs] := by
  have hlater := laterLines_append h []
  rw [List.append_nil, show laterLines [] = [] from rfl] at hlater
  rw [lines_printed, firstLine_eq_self h, hlater]

/-- What is in a class up to the first that is not in it. -/
theorem span_append {α : Type} {p : α → Bool} {cs : List α} (hcs : ∀ c ∈ cs, p c = true) {c : α}
    (hc : p c = false) (rest : List α) : (cs ++ c :: rest).span p = (cs, c :: rest) := by
  rw [List.span_eq_takeWhile_dropWhile, List.takeWhile_append_of_pos hcs,
    List.dropWhile_append_of_pos hcs]
  simp [hc]

/-- Where a text can be cut at a character, it can be cut at the first occurrence or after it. -/
theorem eq_or_of_append_cons_eq {d : Char} {xs ys as bs : List Char} (hx : d ∉ xs)
    (h : xs ++ d :: ys = as ++ d :: bs) :
    (as = xs ∧ bs = ys) ∨ ∃ more, as = xs ++ d :: more ∧ ys = more ++ d :: bs := by
  induction xs generalizing as with
  | nil =>
      cases as with
      | nil => exact .inl ⟨rfl, (List.cons.inj h).2.symm⟩
      | cons a as =>
          obtain ⟨rfl, hys⟩ := List.cons.inj h
          exact .inr ⟨as, rfl, hys⟩
  | cons x xs ih =>
      rw [List.mem_cons, not_or] at hx
      cases as with
      | nil => exact absurd (List.cons.inj h).1.symm hx.1
      | cons a as =>
          obtain ⟨rfl, htail⟩ := List.cons.inj h
          rcases ih hx.2 htail with ⟨rfl, rfl⟩ | ⟨more, rfl, rfl⟩
          · exact .inl ⟨rfl, rfl⟩
          · exact .inr ⟨more, rfl, rfl⟩

/-- A text is cut at the first occurrence of a character in one way only. -/
theorem eq_of_append_cons_eq {d : Char} {xs ys as bs : List Char} (hx : d ∉ xs) (ha : d ∉ as)
    (h : xs ++ d :: ys = as ++ d :: bs) : xs = as ∧ ys = bs := by
  rcases eq_or_of_append_cons_eq hx h with ⟨rfl, rfl⟩ | ⟨more, rfl, -⟩
  · exact ⟨rfl, rfl⟩
  · simp at ha

theorem span_eq {α : Type} {p : α → Bool} {cs start rest : List α}
    (h : cs.span p = (start, rest)) :
    cs = start ++ rest ∧ ∀ c ∈ start, p c = true := by
  rw [List.span_eq_takeWhile_dropWhile] at h
  obtain ⟨rfl, rfl⟩ := Prod.mk.inj h
  exact ⟨List.takeWhile_append_dropWhile.symm, fun c hc => List.mem_takeWhile_imp hc⟩

theorem after?_eq_some_iff {p cs rest : List Char} :
    after? p cs = some rest ↔ cs = p ++ rest := by
  fun_induction after? p cs with
  | case1 cs => simp [eq_comm]
  | case2 d ps cs ih => simpa using ih
  | case3 d ps c cs h => simp [Ne.symm h]
  | case4 d ps => simp

end Text

namespace Audit

theorem not_isDecimal_colon : Text.isDecimal ':' = false := rfl

theorem number?_of_not_isDecimal {c : Char} (hc : Text.isDecimal c = false) (rest : List Char) :
    number? (c :: rest) = none := by
  simp [number?, List.span_eq_takeWhile_dropWhile, hc]

/-- A number is the digits up to the next character that is none. -/
theorem number?_append {digits : List Char} (hne : digits ≠ [])
    (hdigits : ∀ c ∈ digits, Text.isDecimal c = true) {c : Char} (hc : Text.isDecimal c = false)
    (rest : List Char) : number? (digits ++ c :: rest) = some (digits, c :: rest) := by
  rw [number?, Text.span_append hdigits hc]
  cases digits with
  | nil => exact absurd rfl hne
  | cons d ds => rfl

theorem number?_eq_some {cs digits rest : List Char} (h : number? cs = some (digits, rest)) :
    cs = digits ++ rest ∧ ∀ c ∈ digits, Text.isDecimal c = true := by
  rw [number?] at h
  split at h
  · cases h
  · next hspan =>
      obtain ⟨rfl, rfl⟩ := Prod.mk.inj (Option.some.inj h)
      exact Text.span_eq hspan

theorem notMem_colon {digits : List Char} (h : ∀ c ∈ digits, Text.isDecimal c = true) :
    ':' ∉ digits := by
  intro hc
  have := h _ hc
  rw [not_isDecimal_colon] at this
  cases this

/-- The text of a head after its first colon. -/
def Head.inside (h : Head) : List Char :=
  h.line ++ ':' :: h.column ++ ':' :: ' ' :: h.code ++ [':', ' ']

/-- The text of a head. -/
def Head.text (h : Head) : List Char :=
  ':' :: h.inside

/-- The head is read back from its text: its places are digits, and its code is a capital letter and
four digits. -/
structure Head.IsReadable (h : Head) : Prop where
  line_ne_nil : h.line ≠ []
  line_digits : ∀ c ∈ h.line, Text.isDecimal c = true
  column_ne_nil : h.column ≠ []
  column_digits : ∀ c ∈ h.column, Text.isDecimal c = true
  code_readable : code? h.code = some (h.code, [])

theorem code?_append {code : List Char} (h : code? code = some (code, [])) (rest : List Char) :
    code? (code ++ rest) = some (code, rest) := by
  match code, h with
  | [a, b, c, d, e], h =>
      rw [code?] at h
      split at h
      · next hcode => simp only [List.cons_append, List.nil_append, code?, if_pos hcode]
      · cases h
  | _ :: _ :: _ :: _ :: _ :: _ :: _, h =>
      rw [code?] at h
      split at h <;> simp at h

theorem code?_eq_some {cs code rest : List Char} (h : code? cs = some (code, rest)) :
    cs = code ++ rest := by
  rw [code?.eq_def] at h
  split at h
  · split at h
    · obtain ⟨rfl, rfl⟩ := Prod.mk.inj (Option.some.inj h)
      rfl
    · cases h
  · cases h

/-- A head is found where its text stands. -/
theorem head?_eq_some {cs rest : List Char} {h : Head} (hh : head? cs = some (h, rest)) :
    cs = h.text ++ rest := by
  simp only [head?, Option.bind_eq_bind, Option.bind_eq_some_iff, Prod.exists] at hh
  obtain ⟨cs₁, h₁, line, cs₂, h₂, cs₃, h₃, column, cs₄, h₄, cs₅, h₅, code, cs₆, h₆, cs₇, h₇, h₈⟩ := hh
  obtain ⟨rfl, rfl⟩ := Prod.mk.inj (Option.some.inj h₈)
  rw [Text.after?_eq_some_iff.mp h₁, (number?_eq_some h₂).1, Text.after?_eq_some_iff.mp h₃,
    (number?_eq_some h₄).1, Text.after?_eq_some_iff.mp h₅, code?_eq_some h₆,
    Text.after?_eq_some_iff.mp h₇]
  simp [Head.text, Head.inside]

theorem head?_text {h : Head} (hh : h.IsReadable) (rest : List Char) :
    head? (h.text ++ rest) = some (h, rest) := by
  have hline := number?_append hh.line_ne_nil hh.line_digits not_isDecimal_colon
  have hcolumn := number?_append hh.column_ne_nil hh.column_digits not_isDecimal_colon
  have hcode := code?_append hh.code_readable
  simp [Head.text, Head.inside, head?, Text.after?, hline, hcolumn, hcode]

theorem head?_of_ne {c : Char} (hc : c ≠ ':') (rest : List Char) : head? (c :: rest) = none := by
  simp [head?, Text.after?, Ne.symm hc]

/-- A place that a blank follows begins no head. -/
theorem head?_place {place : List Char} (h : ':' ∉ place) (rest : List Char) :
    head? (':' :: place ++ ':' :: ' ' :: rest) = none := by
  cases hn : number? (place ++ ':' :: ' ' :: rest) with
  | none => simp [head?, Text.after?, hn]
  | some found =>
      obtain ⟨digits, more⟩ := found
      obtain ⟨heq, hdigits⟩ := number?_eq_some hn
      have hcolon := notMem_colon hdigits
      cases more with
      | nil => simp [head?, Text.after?, hn]
      | cons c more =>
          by_cases hc : c = ':'
          · subst hc
            obtain ⟨-, rfl⟩ := Text.eq_of_append_cons_eq h hcolon heq
            simp [head?, Text.after?, hn, number?_of_not_isDecimal (c := ' ') rfl]
          · simp [head?, Text.after?, hn, Ne.symm hc]

/-- What is left of a text that ends in a symbol in brackets. -/
theorem tail?_eq_some_iff {cs message symbol : List Char} :
    tail? cs = some (message, symbol) ↔
      cs = message ++ ' ' :: '(' :: symbol ++ [')'] ∧ symbol ≠ [] ∧
        ∀ c ∈ symbol, isSymbolChar c = true := by
  constructor
  · intro h
    rw [tail?] at h
    split at h
    · next back hback =>
        split at h
        · cases h
        · next found start hne hspan =>
            obtain ⟨rfl, rfl⟩ := Prod.mk.inj (Option.some.inj h)
            obtain ⟨hfound, hsymbol⟩ := Text.span_eq hspan
            refine ⟨?_, by simpa using hne, fun c hc => hsymbol c (List.mem_reverse.mp hc)⟩
            rw [← List.reverse_eq_iff.mpr hback.symm, hfound]
            simp
        · cases h
    · cases h
  · rintro ⟨rfl, hne, hsymbol⟩
    have hspan : (symbol.reverse ++ '(' :: ' ' :: message.reverse).span isSymbolChar =
        (symbol.reverse, '(' :: ' ' :: message.reverse) :=
      Text.span_append (fun c hc => hsymbol c (List.mem_reverse.mp hc)) rfl _
    have hreverse : (message ++ ' ' :: '(' :: symbol ++ [')']).reverse =
        ')' :: (symbol.reverse ++ '(' :: ' ' :: message.reverse) := by simp
    rw [tail?, hreverse]
    simp only [hspan]
    cases hs : symbol.reverse with
    | nil => exact absurd (List.reverse_eq_nil_iff.mp hs) hne
    | cons c rest =>
        change some (message.reverse.reverse, (c :: rest).reverse) = _
        rw [← hs, List.reverse_reverse, List.reverse_reverse]

/-- A text ends as its last part does. -/
theorem tail?_append {cs message symbol : List Char} (h : tail? cs = some (message, symbol))
    (p : List Char) : tail? (p ++ cs) = some (p ++ message, symbol) := by
  obtain ⟨rfl, hne, hsymbol⟩ := tail?_eq_some_iff.mp h
  exact tail?_eq_some_iff.mpr ⟨by simp, hne, hsymbol⟩

theorem reportAfter?_of_head?_eq_none {cs : List Char} (h : head? cs = none) (path : List Char) :
    reportAfter? path cs = none := by
  simp [reportAfter?, h]

/-- Past a text in which no head begins, nothing has been read. -/
theorem readFrom_append_of_head? {p rest : List Char}
    (hp : ∀ s, s <:+ p → s ≠ [] → head? (s ++ rest) = none) (path : List Char) :
    readFrom path (p ++ rest) = readFrom (p.reverse ++ path) rest := by
  induction p generalizing path with
  | nil => rfl
  | cons c p ih =>
      have hnone : head? (c :: (p ++ rest)) = none := hp (c :: p) List.suffix_rfl (by simp)
      have hlater := ih fun s hs => hp s (hs.trans (List.suffix_cons c p))
      rw [List.cons_append, readFrom, reportAfter?_of_head?_eq_none hnone]
      simp only
      rw [hlater]
      simp

/-- Past a text without colons, nothing has been read. -/
theorem readFrom_append {p : List Char} (hp : ':' ∉ p) (path rest : List Char) :
    readFrom path (p ++ rest) = readFrom (p.reverse ++ path) rest := by
  apply readFrom_append_of_head?
  intro s hs hne
  cases s with
  | nil => exact absurd rfl hne
  | cons c s => exact head?_of_ne (fun hc => hp (hs.subset (by simp [hc]))) (s ++ rest)

theorem readFrom_cons {c : Char} {rest : List Char} (h : head? (c :: rest) = none)
    (path : List Char) : readFrom path (c :: rest) = readFrom (c :: path) rest := by
  rw [readFrom, reportAfter?_of_head?_eq_none h]

/-- A text that does not end in a symbol holds no report. -/
theorem readFrom_of_tail?_eq_none {cs : List Char} (h : tail? cs = none) (path : List Char) :
    readFrom path cs = none := by
  induction cs generalizing path with
  | nil => rfl
  | cons c rest ih =>
      have hafter (p : List Char) : reportAfter? p (c :: rest) = none := by
        cases hh : head? (c :: rest) with
        | none => exact reportAfter?_of_head?_eq_none hh p
        | some found =>
            obtain ⟨head, body⟩ := found
            cases ht : tail? body with
            | none => simp [reportAfter?, hh, ht]
            | some t =>
                rw [head?_eq_some hh, tail?_append ht] at h
                cases h
      have hrest : tail? rest = none := by
        cases ht : tail? rest with
        | none => rfl
        | some t =>
            rw [← List.singleton_append, tail?_append ht] at h
            cases h
      rw [readFrom, hafter]
      exact ih hrest (c :: path)

/-- No place of a head and no code holds a colon. -/
structure Head.IsColonFree (h : Head) : Prop where
  line : ':' ∉ h.line
  column : ':' ∉ h.column
  code : ':' ∉ h.code

/-- The characters of a code: a capital letter or a digit. -/
theorem mem_of_code? {code : List Char} (h : code? code = some (code, [])) {c : Char}
    (hc : c ∈ code) : isCapital c = true ∨ Text.isDecimal c = true := by
  rw [code?.eq_def] at h
  split at h
  · split at h
    · next hcode =>
        obtain rfl := (Prod.mk.inj (Option.some.inj h)).2
        simp only [Bool.and_eq_true, List.all_eq_true] at hcode
        rcases List.mem_cons.mp hc with rfl | hc
        · exact .inl hcode.1
        · exact .inr (hcode.2 c hc)
    · cases h
  · cases h

theorem notMem_colon_code {code : List Char} (h : code? code = some (code, [])) : ':' ∉ code := by
  intro hc
  rcases mem_of_code? h hc with hcapital | hdecimal
  · exact absurd hcapital (by decide)
  · rw [not_isDecimal_colon] at hdecimal
    cases hdecimal

theorem Head.IsReadable.isColonFree {h : Head} (hh : h.IsReadable) : h.IsColonFree where
  line := notMem_colon hh.line_digits
  column := notMem_colon hh.column_digits
  code := notMem_colon_code hh.code_readable

/-- Inside a head no other head begins. -/
theorem readFrom_inside {h : Head} (hh : h.IsColonFree) (path rest : List Char) :
    readFrom path (h.inside ++ rest) = readFrom (h.inside.reverse ++ path) rest := by
  have hblank (cs : List Char) : head? (':' :: ' ' :: cs) = none := by
    simp [head?, Text.after?, number?_of_not_isDecimal (c := ' ') rfl]
  have hcode : ':' ∉ ' ' :: h.code := by simp [hh.code]
  calc readFrom path (h.inside ++ rest)
      = readFrom path (h.line ++ (':' :: h.column ++ ':' :: ' ' :: (h.code ++ ':' :: ' ' :: rest))) := by
        simp [Head.inside]
    _ = readFrom (':' :: (h.line.reverse ++ path))
          (h.column ++ ':' :: ' ' :: (h.code ++ ':' :: ' ' :: rest)) := by
        rw [readFrom_append hh.line]
        exact readFrom_cons (head?_place hh.column _) _
    _ = readFrom (':' :: (h.column.reverse ++ ':' :: (h.line.reverse ++ path)))
          (' ' :: h.code ++ ':' :: ' ' :: rest) := by
        rw [readFrom_append hh.column]
        exact readFrom_cons (hblank _) _
    _ = readFrom (' ' :: ':' :: ((' ' :: h.code).reverse ++
          ':' :: (h.column.reverse ++ ':' :: (h.line.reverse ++ path)))) rest := by
        rw [readFrom_append hcode, readFrom_cons (hblank _),
          readFrom_cons (head?_of_ne (by decide) _)]
    _ = readFrom (h.inside.reverse ++ path) rest := by simp [Head.inside]

theorem prefix_of_readFrom {path cs : List Char} {r : Report} (h : readFrom path cs = some r) :
    path.reverse <+: r.path.toList := by
  have hafter {p cs : List Char} {r : Report} (h : reportAfter? p cs = some r) :
      r.path.toList = p := by
    simp only [reportAfter?, Option.bind_eq_bind, Option.bind_eq_some_iff, Prod.exists] at h
    obtain ⟨head, rest, -, message, symbol, -, h⟩ := h
    cases h
    exact String.toList_ofList
  induction cs generalizing path with
  | nil => exact (hafter h).symm ▸ List.prefix_rfl
  | cons c rest ih =>
      rw [readFrom] at h
      split at h
      · next r' hr =>
          cases h
          exact (hafter hr).symm ▸ List.prefix_rfl
      · exact ((List.reverse_cons ▸ List.prefix_append _ _).trans (ih h))

/-- The report with these parts. -/
def Head.report (h : Head) (path message symbol : List Char) : Report :=
  { path := String.ofList path
    line := String.ofList h.line
    column := String.ofList h.column
    code := String.ofList h.code
    message := String.ofList message
    symbol := String.ofList symbol }

/-- Where no head can be read after a path without colons, a report that is found further on has all
of it in its path. -/
theorem prefix_of_read? {path : List Char} (hpath : ':' ∉ path) {h : Head} (hfree : h.IsColonFree)
    {body : List Char} (hnone : head? (h.text ++ body) = none) {r : Report}
    (hr : Report.read? (path ++ h.text ++ body) = some r) : path ++ h.text <+: r.path.toList := by
  have hread : Report.read? (path ++ h.text ++ body) =
      readFrom (h.inside.reverse ++ ':' :: path.reverse) body := by
    have hcons := readFrom_cons (show head? (':' :: (h.inside ++ body)) = none from hnone)
    rw [Report.read?, List.append_assoc, readFrom_append hpath, Head.text, List.cons_append,
      hcons, readFrom_inside hfree, List.append_nil]
  rw [hread] at hr
  have hprefix := prefix_of_readFrom hr
  simpa [Head.text] using hprefix

end Audit

end MarkerLint
