import Mathlib.Data.List.Basic
import Mathlib.Data.List.Infix
import MarkerLint.Number.Decimal
import MarkerLint.Proofs.ReportLines
import MarkerLint.Table

/-!
# The form of a report line

A line is read as a report exactly if it is one: a path, a head, a text, and a symbol in brackets at
its end. A line may be one in several ways; the path ends where the first head begins. A path that
holds no whole head is therefore read back, for a head cannot begin in it and end after it.
-/

namespace MarkerLint.Audit

/-- The text is a number: digits of any script. -/
structure IsNumber (cs : List Char) : Prop where
  ne_nil : cs ≠ []
  digits : ∀ c ∈ cs, Text.isDecimal c = true

/-- The text is a code: a capital letter and four digits. -/
def IsCode (cs : List Char) : Prop :=
  ∃ letter digits, cs = letter :: digits ∧ isCapital letter = true ∧ digits.length = 4 ∧
    ∀ d ∈ digits, Text.isDecimal d = true

theorem IsCode.length_eq {cs : List Char} (h : IsCode cs) : cs.length = 5 := by
  obtain ⟨letter, digits, rfl, -, hlength, -⟩ := h
  rw [List.length_cons, hlength]

/-- A layout with its fields filled in; a field is named between braces. -/
def layOutFrom (fields : Table String) : Option (List Char) → List Char → List Char
  | _, [] => []
  | none, c :: rest =>
      if c = '\x7b' then layOutFrom fields (some []) rest else c :: layOutFrom fields none rest
  | some name, c :: rest =>
      if c = '\x7d' then
        ((fields.get? (String.ofList name.reverse)).getD "").toList ++ layOutFrom fields none rest
      else layOutFrom fields (some (c :: name)) rest

/-- A layout filled with the parts of a report. -/
def layOut (layout : String) (r : Report) : String :=
  String.ofList
    (layOutFrom
      [("path", r.path), ("line", r.line), ("column", r.column), ("msg_id", r.code),
        ("msg", r.message), ("symbol", r.symbol)] none layout.toList)

/-- The line of a report is the layout that the host is asked to report in, filled in. -/
theorem layOut_reportLayout (r : Report) : layOut reportLayout r = r.text := by
  apply String.toList_injective
  simp only [layOut, String.toList_ofList, Report.text, Report.location, String.toList_append,
    List.append_assoc]
  rfl

/-- What the line of a report holds between the path and the text. -/
def Report.head (r : Report) : Head :=
  ⟨r.line.toList, r.column.toList, r.code.toList⟩

/-- What the line of a report holds after the code. -/
def Report.body (r : Report) : List Char :=
  r.message.toList ++ ' ' :: '(' :: r.symbol.toList ++ [')']

theorem Report.toList_text (r : Report) :
    r.text.toList = r.path.toList ++ r.head.text ++ r.body := by
  simp [Report.text, Report.location, Report.head, Report.body, Head.text, Head.inside]

/-- The parts of the report are what a line can be read as. -/
structure Report.IsWellFormed (r : Report) : Prop where
  line : IsNumber r.line.toList
  column : IsNumber r.column.toList
  code : IsCode r.code.toList
  symbol_ne_nil : r.symbol.toList ≠ []
  symbol_chars : ∀ c ∈ r.symbol.toList, isSymbolChar c = true

/-- The line is a report. -/
def IsReportLine (line : List Char) : Prop :=
  ∃ r : Report, r.IsWellFormed ∧ line = r.text.toList

/-- The path holds no whole head. -/
def IsHeadless (path : List Char) : Prop :=
  ∀ h : Head, h.IsReadable → ¬ h.text <:+: path

/-- A natural number is read where it is written. -/
theorem isNumber_text {i : Int} (h : 0 ≤ i) : IsNumber (Decimal.text i).toList := by
  rw [Decimal.toList_text_of_nonneg h]
  exact ⟨Nat.toDigits_ne_nil, fun c hc =>
    Text.isDecimal_of_isAsciiDigit (Decimal.isAsciiDigit_of_mem_toDigits hc)⟩

theorem code?_self_iff {cs : List Char} : code? cs = some (cs, []) ↔ IsCode cs := by
  constructor
  · intro h
    rw [code?.eq_def] at h
    split at h
    · next a b c d e rest =>
        split at h
        · next hcode =>
            obtain ⟨-, rfl⟩ := Prod.mk.inj (Option.some.inj h)
            rw [Bool.and_eq_true, List.all_eq_true] at hcode
            exact ⟨a, [b, c, d, e], rfl, hcode.1, rfl, hcode.2⟩
        · cases h
    · cases h
  · rintro ⟨letter, digits, rfl, hletter, hlength, hdigits⟩
    obtain ⟨b, c, d, e, rfl⟩ := List.length_eq_four.mp hlength
    have hall : [b, c, d, e].all Text.isDecimal = true := List.all_eq_true.mpr hdigits
    rw [code?, hletter, hall]
    rfl

theorem code?_eq_some_self {cs code rest : List Char} (h : code? cs = some (code, rest)) :
    code? code = some (code, []) := by
  rw [code?.eq_def] at h
  split at h
  · split at h
    · next hcode =>
        obtain ⟨rfl, -⟩ := Prod.mk.inj (Option.some.inj h)
        rw [code?, if_pos hcode]
    · cases h
  · cases h

theorem number?_ne_nil {cs digits rest : List Char} (h : number? cs = some (digits, rest)) :
    digits ≠ [] := by
  rw [number?] at h
  split at h
  · cases h
  · next hne _ =>
      obtain ⟨rfl, -⟩ := Prod.mk.inj (Option.some.inj h)
      exact fun he => hne (by rw [he])

theorem Report.IsWellFormed.isReadable {r : Report} (hr : r.IsWellFormed) : r.head.IsReadable where
  line_ne_nil := hr.line.ne_nil
  line_digits := hr.line.digits
  column_ne_nil := hr.column.ne_nil
  column_digits := hr.column.digits
  code_readable := code?_self_iff.mpr hr.code

theorem Report.IsWellFormed.tail?_body {r : Report} (hr : r.IsWellFormed) :
    tail? r.body = some (r.message.toList, r.symbol.toList) :=
  tail?_eq_some_iff.mpr ⟨rfl, hr.symbol_ne_nil, hr.symbol_chars⟩

/-- A head that is found can be read again. -/
theorem isReadable_of_head? {cs rest : List Char} {h : Head} (hh : head? cs = some (h, rest)) :
    h.IsReadable := by
  simp only [head?, Option.bind_eq_bind, Option.bind_eq_some_iff, Prod.exists] at hh
  obtain ⟨_, -, line, _, hline, _, -, column, _, hcolumn, _, -, code, _, hcode, _, -, hhead⟩ := hh
  obtain ⟨rfl, -⟩ := Prod.mk.inj (Option.some.inj hhead)
  exact
    { line_ne_nil := number?_ne_nil hline
      line_digits := (number?_eq_some hline).2
      column_ne_nil := number?_ne_nil hcolumn
      column_digits := (number?_eq_some hcolumn).2
      code_readable := code?_eq_some_self hcode }

/-- After a head, a report is found exactly if the line ends in a symbol. -/
theorem reportAfter?_head {h : Head} (hh : h.IsReadable) (path body : List Char) :
    reportAfter? path (h.text ++ body) = (tail? body).map fun t => h.report path t.1 t.2 := by
  cases ht : tail? body <;> simp [reportAfter?, head?_text hh, ht, Head.report]

/-- A report that is found after a path is well formed, and its line stands there. -/
theorem isWellFormed_of_reportAfter? {path cs : List Char} {r : Report}
    (h : reportAfter? path cs = some r) : r.IsWellFormed ∧ path ++ cs = r.text.toList := by
  simp only [reportAfter?, Option.bind_eq_bind, Option.bind_eq_some_iff, Prod.exists] at h
  obtain ⟨head, rest, hhead, message, symbol, htail, h⟩ := h
  obtain rfl := Option.some.inj h
  have hreadable := isReadable_of_head? hhead
  obtain ⟨hrest, hne, hsymbol⟩ := tail?_eq_some_iff.mp htail
  constructor
  · constructor
    · exact ⟨by simpa using hreadable.line_ne_nil, by simpa using hreadable.line_digits⟩
    · exact ⟨by simpa using hreadable.column_ne_nil, by simpa using hreadable.column_digits⟩
    · simpa using code?_self_iff.mp hreadable.code_readable
    · simpa using hne
    · simpa using hsymbol
  · rw [head?_eq_some hhead, hrest]
    simp [Report.toList_text, Report.head, Report.body]

theorem isWellFormed_of_readFrom {path cs : List Char} {r : Report}
    (h : readFrom path cs = some r) : r.IsWellFormed ∧ path.reverse ++ cs = r.text.toList := by
  induction cs generalizing path with
  | nil => exact isWellFormed_of_reportAfter? h
  | cons c rest ih =>
      rw [readFrom] at h
      split at h
      · next found hfound =>
          obtain rfl := Option.some.inj h
          exact isWellFormed_of_reportAfter? hfound
      · simpa using ih h

/-- A line is read only as a report that it is. -/
theorem isWellFormed_of_read? {line : List Char} {r : Report} (h : Report.read? line = some r) :
    r.IsWellFormed ∧ line = r.text.toList :=
  isWellFormed_of_readFrom h

/-- Where a report can be read after some path, the line is not passed over. -/
theorem isSome_readFrom_append {p path cs : List Char} {r : Report}
    (h : reportAfter? (path.reverse ++ p) cs = some r) : (readFrom path (p ++ cs)).isSome := by
  induction p generalizing path with
  | nil =>
      rw [List.append_nil] at h
      cases cs with
      | nil => simp [readFrom, h]
      | cons c rest => simp [readFrom, h]
  | cons c p ih =>
      rw [List.cons_append, readFrom]
      split
      · rfl
      · exact ih (by simpa using h)

/-- A line is read as a report exactly if it is one. -/
theorem isSome_read?_iff {line : List Char} : (Report.read? line).isSome ↔ IsReportLine line := by
  constructor
  · intro h
    obtain ⟨r, hr⟩ := Option.isSome_iff_exists.mp h
    exact ⟨r, isWellFormed_of_read? hr⟩
  · rintro ⟨r, hr, rfl⟩
    have hafter := reportAfter?_head hr.isReadable r.path.toList r.body
    rw [hr.tail?_body, Option.map_some] at hafter
    rw [Report.toList_text, List.append_assoc]
    exact isSome_readFrom_append hafter

/-- At a colon in a head, either the line is finished or a blank follows. -/
theorem Head.IsColonFree.eq_of_inside_eq {h : Head} (hh : h.IsColonFree) {before after : List Char}
    (heq : h.inside = before ++ ':' :: after) :
    after = h.column ++ ':' :: ' ' :: h.code ++ [':', ' '] ∨ ∃ rest, after = ' ' :: rest := by
  have hcode : ':' ∉ ' ' :: h.code := by simp [hh.code]
  have hinside : h.inside = h.line ++ ':' :: (h.column ++ ':' :: (' ' :: h.code ++ [':', ' '])) := by
    simp [Head.inside]
  rw [hinside] at heq
  rcases Text.eq_or_of_append_cons_eq hh.line heq with ⟨-, rfl⟩ | ⟨before, -, heq⟩
  · exact .inl (by simp)
  rcases Text.eq_or_of_append_cons_eq hh.column heq with ⟨-, rfl⟩ | ⟨before, -, heq⟩
  · exact .inr ⟨_, rfl⟩
  rcases Text.eq_or_of_append_cons_eq hcode heq with ⟨-, rfl⟩ | ⟨before, -, heq⟩
  · exact .inr ⟨_, rfl⟩
  rcases List.append_eq_singleton_iff.mp heq.symm with ⟨-, h⟩ | ⟨-, h⟩ <;> simp at h

/-- A head cannot begin inside another one: where the line would stand, there is a blank, or a
column that a blank follows. -/
theorem Head.IsReadable.ne_of_inside {g h : Head} (hg : g.IsReadable) (hh : h.IsReadable)
    {before after rest body : List Char} (hinside : g.inside = before ++ ':' :: after) :
    after ++ rest ≠ h.inside ++ body := by
  have hline := number?_append hh.line_ne_nil hh.line_digits not_isDecimal_colon
  have hcolumn := number?_append hh.column_ne_nil hh.column_digits not_isDecimal_colon
  have hblank (cs : List Char) : number? (' ' :: cs) = none := number?_of_not_isDecimal rfl cs
  intro heq
  rcases hg.isColonFree.eq_of_inside_eq hinside with rfl | ⟨more, rfl⟩
  · have hcut : ' ' :: (g.code ++ ':' :: ' ' :: rest) =
        h.column ++ ':' :: ' ' :: (h.code ++ ':' :: ' ' :: body) := by
      apply (Text.eq_of_append_cons_eq hg.isColonFree.column hh.isColonFree.line _).2
      simpa [Head.inside] using heq
    have hnumber := hblank (g.code ++ ':' :: ' ' :: rest)
    rw [hcut, hcolumn] at hnumber
    cases hnumber
  · have hnumber := hblank (more ++ rest)
    rw [← List.cons_append, heq, Head.inside] at hnumber
    simp only [List.append_assoc, List.cons_append] at hnumber
    rw [hline] at hnumber
    cases hnumber

/-- No head begins in a path without heads, also where one follows the path. -/
theorem IsHeadless.head?_eq_none {path : List Char} (hpath : IsHeadless path) {h : Head}
    (hh : h.IsReadable) (body : List Char) {s : List Char} (hs : s <:+ path) (hne : s ≠ []) :
    head? (s ++ (h.text ++ body)) = none := by
  by_contra hsome
  obtain ⟨⟨g, rest⟩, hg⟩ := Option.ne_none_iff_exists'.mp hsome
  have hgood := isReadable_of_head? hg
  rcases List.append_eq_append_iff.mp (head?_eq_some hg) with ⟨u, hu, hrest⟩ | ⟨u, rfl, -⟩
  · cases u with
    | nil => exact hpath g hgood (by rw [hu, List.append_nil]; exact hs.isInfix)
    | cons c after =>
        -- The head begins in the path and ends after it.
        cases s with
        | nil => exact hne rfl
        | cons d before =>
            rw [Head.text, List.cons_append, List.cons_append] at hrest
            obtain ⟨rfl, heq⟩ := List.cons.inj hrest
            exact hgood.ne_of_inside hh (List.cons.inj hu).2 heq.symm
  · exact hpath g hgood ((List.prefix_append g.text u).isInfix.trans hs.isInfix)

theorem IsHeadless.of_notMem {path : List Char} (h : ':' ∉ path) : IsHeadless path :=
  fun _ _ hpart => h (hpart.subset List.mem_cons_self)

/-- A path is without heads if none can be read anywhere in it. -/
theorem isHeadless_iff {path : List Char} :
    IsHeadless path ↔ ∀ s ∈ path.tails, head? s = none := by
  simp only [List.mem_tails]
  constructor
  · intro h s hs
    cases hh : head? s with
    | none => rfl
    | some found =>
        obtain ⟨g, rest⟩ := found
        have hpart : g.text <+: s := ⟨rest, (head?_eq_some hh).symm⟩
        exact absurd (hpart.isInfix.trans hs.isInfix) (h g (isReadable_of_head? hh))
  · rintro h g hg ⟨before, after, rfl⟩
    have hnone := h (g.text ++ after) ⟨before, by simp⟩
    rw [head?_text hg] at hnone
    cases hnone

instance (path : List Char) : Decidable (IsHeadless path) :=
  decidable_of_iff _ isHeadless_iff.symm

instance (line : List Char) : Decidable (IsReportLine line) :=
  decidable_of_iff ((Report.read? line).isSome = true) isSome_read?_iff

instance (cs : List Char) : Decidable (IsCode cs) :=
  decidable_of_iff (code? cs = some (cs, [])) code?_self_iff

/-- After a path without heads and a head, a line is a report exactly if it ends in a symbol. -/
theorem read?_head {path : List Char} (hpath : IsHeadless path) {h : Head} (hh : h.IsReadable)
    (body : List Char) :
    Report.read? (path ++ h.text ++ body) = (tail? body).map fun t => h.report path t.1 t.2 := by
  have hread : Report.read? (path ++ h.text ++ body) = readFrom path.reverse (h.text ++ body) := by
    rw [Report.read?, List.append_assoc,
      readFrom_append_of_head? fun _ hs hne => hpath.head?_eq_none hh body hs hne, List.append_nil]
  rw [hread, Head.text, List.cons_append, readFrom, List.reverse_reverse, ← List.cons_append,
    ← Head.text, reportAfter?_head hh]
  cases ht : tail? body with
  | some t => rfl
  | none =>
      simp only [Option.map_none]
      rw [readFrom_inside hh.isColonFree]
      exact readFrom_of_tail?_eq_none ht _

theorem isLineBreak_of_mem_code {code : List Char} (h : code? code = some (code, [])) :
    ∀ c ∈ code, Text.isLineBreak c = false := by
  intro c hc
  rcases mem_of_code? h hc with hcapital | hdecimal
  · exact Text.isLineBreak_eq_false_of (p := isCapital) (by decide) hcapital
  · exact Text.isLineBreak_eq_false_of (p := Text.isDecimal) (by decide) hdecimal

/-- A head is written on one line if its parts are. -/
theorem Head.isLineBreak_text {h : Head} (hline : ∀ c ∈ h.line, Text.isLineBreak c = false)
    (hcolumn : ∀ c ∈ h.column, Text.isLineBreak c = false)
    (hcode : ∀ c ∈ h.code, Text.isLineBreak c = false) :
    ∀ c ∈ h.text, Text.isLineBreak c = false := by
  intro c hc
  simp only [Head.text, Head.inside, List.mem_cons, List.mem_append, List.not_mem_nil,
    or_false] at hc
  rcases hc with rfl | ((hc | rfl | hc) | rfl | rfl | hc) | rfl | rfl
  · rfl
  · exact hline c hc
  · rfl
  · exact hcolumn c hc
  · rfl
  · rfl
  · exact hcode c hc
  · rfl
  · rfl

theorem Head.IsReadable.isLineBreak {h : Head} (hh : h.IsReadable) :
    ∀ c ∈ h.text, Text.isLineBreak c = false := by
  have hdigit {c : Char} : Text.isDecimal c = true → Text.isLineBreak c = false :=
    Text.isLineBreak_eq_false_of (by decide)
  apply Head.isLineBreak_text
  · exact fun c hc => hdigit (hh.line_digits c hc)
  · exact fun c hc => hdigit (hh.column_digits c hc)
  · exact isLineBreak_of_mem_code hh.code_readable

/-- A report is written on one line if its path and its text are. -/
theorem Report.IsWellFormed.isLineBreak_text {r : Report} (hr : r.IsWellFormed)
    (hpath : ∀ c ∈ r.path.toList, Text.isLineBreak c = false)
    (hmessage : ∀ c ∈ r.message.toList, Text.isLineBreak c = false) :
    ∀ c ∈ r.text.toList, Text.isLineBreak c = false := by
  intro c hc
  rw [Report.toList_text] at hc
  simp only [Report.body, List.mem_cons, List.mem_append, List.not_mem_nil, or_false] at hc
  rcases hc with (hc | hc) | (hc | rfl | rfl | hc) | rfl
  · exact hpath c hc
  · exact hr.isReadable.isLineBreak c hc
  · exact hmessage c hc
  · rfl
  · rfl
  · exact Text.isLineBreak_eq_false_of (by decide +kernel) (hr.symbol_chars c hc)
  · rfl

/-- A report is read back from its line where its path holds no head. -/
theorem Report.read?_text {r : Report} (hr : r.IsWellFormed) (hpath : IsHeadless r.path.toList) :
    Report.read? r.text.toList = some r := by
  rw [Report.toList_text, read?_head hpath hr.isReadable, hr.tail?_body]
  simp [Head.report, Report.head]

end MarkerLint.Audit
