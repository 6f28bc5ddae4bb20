import MarkerLint.CommandLine
import MarkerLint.Proofs.Independence
import MarkerLint.Proofs.JsonCharacters
import MarkerLint.Proofs.Literals

/-!
# Inspections that are printed

What is printed about a module is read back as what was inspected if every integer in it can be
written, every floating-point number in it is finite and no text in it has the two surrogates of a
pair as neighbours. With a longer integer nothing is printed, with an infinite number the text is no
JSON, and a pair of surrogates is read back as one character. The numbers in metadata stand as
constants in the decorators, but for their signs, so those of the 64-bit format are in normal form.
-/

namespace MarkerLint

open Source

namespace Source.Expr

/-- The expressions that an expression is made of. -/
def parts : Expr → List Expr
  | .name .. => []
  | .attribute _ base _ => [base]
  | .call _ callee args keywords => callee :: (args ++ keywords.map (·.2))
  | .constant .. => []
  | .unary _ _ operand => [operand]
  | .sequence _ _ items => items
  | .dict _ entries => entries.filterMap (·.1) ++ entries.map (·.2)
  | .joined _ parts => parts
  | .embedded _ value _ => [value]
  | .subscript _ value index => [value, index]
  | .starred _ value => [value]
  | .computed .. => []
  | .malformed .. => []

/-- The constant stands in an expression, at any depth. -/
inductive Holds (c : Constant) : Expr → Prop
  | constant (s : Span) : Holds c (.constant s c)
  | part {e part : Expr} (mem : part ∈ e.parts) (h : Holds c part) : Holds c e

/-- Every floating-point constant in the expression is in normal form. -/
def HasNormalFloats (e : Expr) : Prop :=
  ∀ x, e.Holds (.float x) → x.IsNormal

/-- An expression is looked through part by part. -/
theorem hasNormalFloats_of_parts {e : Expr}
    (hconstant : ∀ s x, e = .constant s (.float x) → x.IsNormal)
    (hparts : ∀ part ∈ e.parts, part.HasNormalFloats) : e.HasNormalFloats := by
  rintro x (⟨s⟩ | ⟨mem, h⟩)
  · exact hconstant s x rfl
  · exact hparts _ mem x h

/-- The number stands in an expression as a constant, with its sign or the other one. -/
def HoldsUpToSign (x : Binary64) (e : Expr) : Prop :=
  ∃ c, e.Holds (.float c) ∧ (x = c ∨ x = c.neg)

theorem HoldsUpToSign.part {x : Binary64} {e part : Expr} (h : part.HoldsUpToSign x)
    (mem : part ∈ e.parts) : e.HoldsUpToSign x := by
  obtain ⟨c, hc, hx⟩ := h
  exact ⟨c, .part mem hc, hx⟩

theorem HoldsUpToSign.isNormal {x : Binary64} {e : Expr} (h : e.HoldsUpToSign x)
    (he : e.HasNormalFloats) : x.IsNormal := by
  obtain ⟨c, hc, rfl | rfl⟩ := h
  · exact he _ hc
  · exact (he c hc).neg

end Source.Expr

/-- The floating-point number stands in a value, at any depth. -/
inductive Data.HoldsFloat (x : Binary64) : Datum → Prop
  | float : HoldsFloat x (.float x)
  | item {items : List Datum} {v : Datum} (mem : v ∈ items) (h : HoldsFloat x v) :
      HoldsFloat x (.list items)
  | entry {entries : Table Datum CodeText} {e : CodeText × Datum} (mem : e ∈ entries)
      (h : HoldsFloat x e.2) : HoldsFloat x (.table entries)

section Reading

open Data Expr

variable {x : Binary64}

theorem holdsUpToSign_of_signedNumber? {s : Span} {op : String} {operand : Expr} {v : Datum}
    (h : signedNumber? op operand = some v) (hx : v.HoldsFloat x) :
    (Expr.unary s op operand).HoldsUpToSign x := by
  rw [signedNumber?.eq_def] at h
  split at h
  · split at h
    · cases h
      cases hx
    · split at h
      · cases h
        cases hx
      · cases h
  · next place c =>
      have hc : (Expr.unary s op (.constant place (.float c))).Holds (.float c) :=
        .part List.mem_cons_self (.constant place)
      split at h
      · cases h
        cases hx
        exact ⟨_, hc, .inr rfl⟩
      · split at h
        · cases h
          cases hx
          exact ⟨_, hc, .inl rfl⟩
        · cases h
  · cases h

theorem Data.not_holdsFloat_nil : ¬ (Data.table []).HoldsFloat x := by
  rintro (_ | _ | ⟨mem, -⟩)
  cases mem

/-- What is written into a table stands in it afterwards, or what stood there before. -/
theorem Data.HoldsFloat.of_insert {t : Table Datum CodeText} {k : CodeText} {v : Datum}
    (h : (Data.table (t.insert k v)).HoldsFloat x) :
    v.HoldsFloat x ∨ (Data.table t).HoldsFloat x := by
  cases h with
  | entry mem h =>
      rcases Table.mem_insert mem with rfl | mem
      · exact .inl h
      · exact .inr (.entry mem h)

mutual

/-- The floating-point numbers in what an expression is read as stand in the expression, but for
their signs. There is one case for each form of expression; those that are left out have no value.
-/
theorem holdsUpToSign_of_literal? : ∀ {e : Expr} {v : Datum}, literal? e = .ok (some v) →
    v.HoldsFloat x → e.HoldsUpToSign x
  | .constant s c, _, h, hx => by
      rw [literal?, Except.ok.injEq] at h
      cases c with
      | float c =>
          cases h
          cases hx
          exact ⟨_, .constant s, .inl rfl⟩
      | null => cases h; cases hx
      | boolean b => cases h; cases hx
      | text s => cases h; cases hx
      | integer i => cases h; cases hx
      | imaginary x => cases h
      | bytes b => cases h
      | ellipsis => cases h
  | .unary _ _ _, _, h, hx => by
      rw [literal?, Except.ok.injEq] at h
      exact holdsUpToSign_of_signedNumber? h hx
  | .sequence _ _ items, _, h, hx => by
      rw [literal?] at h
      obtain ⟨values, hvalues, h⟩ := bind_eq_ok_iff.mp h
      cases h
      cases hx with
      | item mem hx =>
          obtain ⟨e, he, hheld⟩ := exists_holdsUpToSign_of_literalItems hvalues mem hx
          exact hheld.part he
  | .dict _ entries, _, h, hx => by
      rw [literal?] at h
      obtain ⟨t, ht, h⟩ := bind_eq_ok_iff.mp h
      cases h
      obtain ⟨e, he, hheld⟩ :=
        (exists_holdsUpToSign_of_literalEntries ht hx).resolve_left not_holdsFloat_nil
      exact hheld.part (List.mem_append_right _ (List.mem_map_of_mem he))
  | .name _ id, _, h, hx => by
      rw [literal?] at h
      cases h
      cases hx
  | .attribute _ _ _, _, h, hx => by
      rw [literal?] at h
      obtain ⟨text, -, h⟩ := map_eq_ok_iff.mp h
      cases h
      cases hx
  | .joined _ _, _, h, hx => by
      rw [literal?] at h
      cases h
      cases hx
  | .malformed _, _, h, _ => by rw [literal?] at h; cases h
  | .call .., _, h, _ => by rw [literal?] at h; cases h
  | .embedded .., _, h, _ => by rw [literal?] at h; cases h
  | .subscript .., _, h, _ => by rw [literal?] at h; cases h
  | .starred .., _, h, _ => by rw [literal?] at h; cases h
  | .computed .., _, h, _ => by rw [literal?] at h; cases h

theorem exists_holdsUpToSign_of_literalItems : ∀ {es : List Expr} {vs : List Datum},
    literalItems es = .ok vs → ∀ {v}, v ∈ vs → v.HoldsFloat x → ∃ e ∈ es, e.HoldsUpToSign x
  | [], _, h, _, hv, _ => by
      rw [literalItems] at h
      cases h
      cases hv
  | e :: rest, _, h, _, hv, hx => by
      rw [literalItems] at h
      obtain ⟨value, hvalue, h⟩ := bind_eq_ok_iff.mp h
      obtain ⟨values, hvalues, h⟩ := bind_eq_ok_iff.mp h
      have hlater {v : Datum} (hv : v ∈ values) (hx : v.HoldsFloat x) :
          ∃ e' ∈ e :: rest, e'.HoldsUpToSign x := by
        obtain ⟨e', he', hheld⟩ := exists_holdsUpToSign_of_literalItems hvalues hv hx
        exact ⟨e', List.mem_cons_of_mem _ he', hheld⟩
      cases value with
      | none =>
          cases h
          exact hlater hv hx
      | some v =>
          cases h
          rcases List.mem_cons.mp hv with rfl | hv
          · exact ⟨e, List.mem_cons_self, holdsUpToSign_of_literal? hvalue hx⟩
          · exact hlater hv hx

theorem exists_holdsUpToSign_of_literalEntries :
    ∀ {entries : List (Option Expr × Expr)} {t t' : Table Datum CodeText},
      literalEntries t entries = .ok t' → (Data.table t').HoldsFloat x →
        (Data.table t).HoldsFloat x ∨ ∃ e ∈ entries, e.2.HoldsUpToSign x
  | [], _, _, h, hx => by
      rw [literalEntries] at h
      cases h
      exact .inl hx
  | (none, _) :: rest, _, _, h, hx => by
      rw [literalEntries] at h
      exact (exists_holdsUpToSign_of_literalEntries h hx).imp_right
        fun ⟨e, he, hheld⟩ => ⟨e, List.mem_cons_of_mem _ he, hheld⟩
  | (some key, e) :: rest, _, _, h, hx => by
      rw [literalEntries] at h
      obtain ⟨k, -, h⟩ := bind_eq_ok_iff.mp h
      have hlater {t t' : Table Datum CodeText} (h : literalEntries t rest = .ok t')
          (hx : (Data.table t').HoldsFloat x) : (Data.table t).HoldsFloat x ∨
            ∃ e' ∈ (some key, e) :: rest, e'.2.HoldsUpToSign x :=
        (exists_holdsUpToSign_of_literalEntries h hx).imp_right
          fun ⟨e', he', hheld⟩ => ⟨e', List.mem_cons_of_mem _ he', hheld⟩
      cases k with
      | none => exact hlater h hx
      | some k =>
          obtain ⟨value, hvalue, h⟩ := bind_eq_ok_iff.mp h
          cases value with
          | none => exact hlater h hx
          | some v =>
              rcases hlater h hx with hx | hheld
              · rcases hx.of_insert with hx | hx
                · exact .inr ⟨_, List.mem_cons_self, holdsUpToSign_of_literal? hvalue hx⟩
                · exact .inl hx
              · exact .inr hheld

end

theorem exists_holdsUpToSign_of_literalKeywords {keywords : List (String × Expr)}
    {t t' : Table Datum CodeText} (h : literalKeywords t keywords = .ok t')
    (hx : (Data.table t').HoldsFloat x) :
    (Data.table t).HoldsFloat x ∨ ∃ e ∈ keywords, e.2.HoldsUpToSign x := by
  induction keywords generalizing t with
  | nil =>
      cases h
      exact .inl hx
  | cons e rest ih =>
      obtain ⟨value, hvalue, h⟩ := bind_eq_ok_iff.mp h
      have hlater {t : Table Datum CodeText} (h : literalKeywords t rest = .ok t') :
          (Data.table t).HoldsFloat x ∨ ∃ e' ∈ e :: rest, e'.2.HoldsUpToSign x :=
        (ih h).imp_right fun ⟨e', he', hheld⟩ => ⟨e', List.mem_cons_of_mem _ he', hheld⟩
      cases value with
      | none => exact hlater h
      | some v =>
          rcases hlater h with hx | hheld
          · rcases hx.of_insert with hx | hx
            · exact .inr ⟨e, List.mem_cons_self, holdsUpToSign_of_literal? hvalue hx⟩
            · exact .inl hx
          · exact .inr hheld

theorem mem_of_namedKeywords? {keywords : List (Option String × Expr)}
    {named : List (String × Expr)} (h : namedKeywords? keywords = some named) :
    ∀ e ∈ named, e.2 ∈ keywords.map (·.2) := by
  induction keywords generalizing named with
  | nil =>
      cases h
      exact List.forall_mem_nil _
  | cons k rest ih =>
      obtain ⟨name, e⟩ := k
      cases name with
      | none => cases h
      | some name =>
          obtain ⟨others, hothers, rfl⟩ := Option.map_eq_some_iff.mp h
          exact List.forall_mem_cons.mpr
            ⟨List.mem_cons_self, fun e he => List.mem_cons_of_mem _ (ih hothers e he)⟩

/-- The floating-point numbers in the metadata of a marker stand in its decorator, but for their
signs. -/
theorem holdsUpToSign_of_readArguments {decorator : Expr} {t : Table Datum CodeText}
    (h : readArguments decorator = .metadata t) (hx : (Data.table t).HoldsFloat x) :
    decorator.HoldsUpToSign x := by
  rw [readArguments.eq_def] at h
  split at h
  · next place entries =>
      have ht := Reading.ofTable_eq_metadata_iff.mp h
      obtain ⟨e, he, hheld⟩ :=
        (exists_holdsUpToSign_of_literalEntries ht hx).resolve_left not_holdsFloat_nil
      have hdict : (Expr.dict place entries).HoldsUpToSign x :=
        hheld.part (List.mem_append_right _ (List.mem_map_of_mem he))
      exact hdict.part (by simp [Expr.parts])
  · split at h
    · next named hnamed =>
        have ht := Reading.ofTable_eq_metadata_iff.mp h
        obtain ⟨e, he, hheld⟩ :=
          (exists_holdsUpToSign_of_literalKeywords ht hx).resolve_left not_holdsFloat_nil
        have hmem := mem_of_namedKeywords? hnamed e he
        exact hheld.part (List.mem_cons_of_mem _ (List.mem_append_right _ hmem))
    · cases h
  · cases h

end Reading

namespace Json

theorem ofValues_eq (items : List Datum) : ofValues items = items.map ofValue := by
  induction items with
  | nil => rfl
  | cons v rest ih => rw [ofValues, ih, List.map_cons]

theorem ofEntries_eq (entries : List (CodeText × Datum)) :
    ofEntries entries = entries.map fun e => (e.1, ofValue e.2) := by
  induction entries with
  | nil => rfl
  | cons e rest ih => rw [ofEntries, ih, List.map_cons]

/-- A value with distinct keys and floating-point numbers in normal form is a tidy document. -/
theorem isTidy_ofValue {v : Datum} (h : v.IsKeyed) (hfloats : ∀ x, v.HoldsFloat x → x.IsNormal) :
    IsTidy (ofValue v) := by
  induction h with
  | null => exact .null
  | boolean b => exact .boolean b
  | text s => exact .text s
  | integer i => exact .integer i
  | float x => exact .float (hfloats x .float)
  | @list items _ ih =>
      rw [ofValue, ofValues_eq]
      refine .list (List.forall_mem_map.mpr fun v hv => ?_)
      exact ih v hv fun x hx => hfloats x (.item hv hx)
  | @table entries distinct _ ih =>
      rw [ofValue, ofEntries_eq]
      refine .object ?_ (List.forall_mem_map.mpr fun e he => ?_)
      · rw [List.map_map]
        exact distinct
      · exact ih e he fun x hx => hfloats x (.entry he hx)

theorem isTidy_ofPosition (i : Option Int) : IsTidy (ofPosition i) := by
  cases i with
  | none => exact .null
  | some i => exact .integer i

/-- Strings that differ are texts that differ. -/
theorem nodup_ofString {names : List String} (h : names.Nodup) :
    (names.map CodeText.ofString).Nodup :=
  h.map fun _ _ => CodeText.ofString_inj.mp

/-- A marker that was read from a decorator with numbers of the format. -/
theorem isTidy_ofMarker {path : String} {d : Expr} {m : Marker}
    (h : Marker.ofDecorator? path d = some m) (hd : d.HasNormalFloats) : IsTidy (ofMarker m) := by
  have hmetadata : IsTidy (ofValue (.table m.metadata)) := by
    obtain ⟨name, -, rfl⟩ := Option.map_eq_some_iff.mp h
    rw [Marker.metadata]
    cases hreading : readArguments d with
    | metadata t =>
        exact isTidy_ofValue (isKeyed_of_readArguments hreading) fun x hx =>
          (holdsUpToSign_of_readArguments hreading hx).isNormal hd
    | notATable => exact .object List.nodup_nil (List.forall_mem_nil _)
    | unwritable cause => exact .object List.nodup_nil (List.forall_mem_nil _)
  have hnames : ["marker", "location", "parseable", "metadata"].Nodup := by decide
  refine .object (nodup_ofString hnames) ?_
  simp only [List.forall_mem_cons]
  exact ⟨.text _, .text _, .boolean _, hmetadata, List.forall_mem_nil _⟩

theorem isTidy_ofDiagnostic (d : Diagnostic) : IsTidy (ofDiagnostic d) := by
  have hnames : ["rule_id", "msgid", "symbol", "severity", "message", "line", "column", "end_line",
    "end_column"].Nodup := by decide
  refine .object (nodup_ofString hnames) ?_
  simp only [List.forall_mem_cons]
  exact ⟨.text _, .text _, .text _, .text _, .text _, .integer _, .integer _, isTidy_ofPosition _,
    isTidy_ofPosition _, List.forall_mem_nil _⟩

theorem isTidy_ofInspected {c : InspectedClass} (h : ∀ m ∈ c.markers, IsTidy (ofMarker m)) :
    IsTidy (ofInspected c) := by
  have hnames : ["declaration", "line", "markers", "diagnostics"].Nodup := by decide
  have hdiagnostics : ∀ j ∈ c.diagnostics.map ofDiagnostic, IsTidy j :=
    List.forall_mem_map.mpr fun d _ => isTidy_ofDiagnostic d
  refine .object (nodup_ofString hnames) ?_
  simp only [List.forall_mem_cons]
  exact ⟨.text _, isTidy_ofPosition _, .list (List.forall_mem_map.mpr h), .list hdiagnostics,
    List.forall_mem_nil _⟩

end Json

/-- The text is no JSON if a floating-point number in the document is infinite. Otherwise it is read
as the document with its pairs of surrogates joined. -/
structure Json.IsReadBack (j : Json) (text : String) : Prop where
  read : Json.read? text = if j.isFinite then some j.joined else none
  same_iff : Json.read? text = some j ↔ j.isFinite = true ∧ j.isPairless = true

namespace Inspection

open Registry

variable {m : Module}

/-- Every floating-point constant in the decorators of the classes is in normal form. -/
def HasNormalFloats (m : Module) : Prop :=
  ∀ d ∈ m.classes, ∀ e ∈ d.decorators, e.HasNormalFloats

/-- Every module is inspected, and the document about it is tidy. -/
theorem exists_inspect_isTidy (hfloats : HasNormalFloats m) :
    ∃ classes, inspect packaged Rule.catalog m = .ok classes ∧
      (Json.ofInspection classes).IsTidy := by
  refine ⟨_, inspect_eq (List.Subset.refl _) m, .list (List.forall_mem_map.mpr ?_)⟩
  refine List.forall_mem_map.mpr fun d hd => Json.isTidy_ofInspected fun marker hmarker => ?_
  obtain ⟨e, he, hread⟩ := List.mem_filterMap.mp hmarker
  exact Json.isTidy_ofMarker hread (hfloats d (List.mem_of_mem_filter hd) e he)

/-- A tidy document that is printed on a line of its own is read back from that line. -/
theorem isReadBack_linesText {j : Json} (hj : j.IsTidy) {text : String}
    (htext : j.render = .ok text) : j.IsReadBack (Audit.linesText [text]) := by
  have hprinted : Json.IsPrinted text := hj.isPrinted_textAt 0 text htext
  have hline : Audit.linesText [text] = text ++ "\n" := by
    simp [Audit.linesText, hprinted.dropEscapes_eq]
  have hread : Json.read? (Audit.linesText [text]) =
      if j.isFinite then some j.joined else none := by
    rw [hline]
    exact hj.read?_render htext (List.all_eq_true.mp (by decide))
  refine ⟨hread, ?_⟩
  rw [hread, ← hj.joined_eq_self_iff]
  cases j.isFinite <;> simp

/-- Every module is inspected. The document about it has a text exactly if all integers in it are
within the digit limit, and otherwise they have too many digits. What is printed is no JSON if a
floating-point number in it is infinite. Otherwise it is read back with the pairs of surrogates in
it joined, and so as the document exactly if there are none. -/
theorem printed_read_back_iff (hfloats : HasNormalFloats m) :
    ∃ classes, inspect packaged Rule.catalog m = .ok classes ∧
      IsWrittenIff (Json.ofInspection classes).render ((Json.ofInspection classes).isShort = true) ∧
      ∀ text, (Json.ofInspection classes).render = .ok text →
        (Json.ofInspection classes).IsReadBack (Audit.linesText [text]) := by
  obtain ⟨classes, hclasses, htidy⟩ := exists_inspect_isTidy hfloats
  refine ⟨classes, hclasses, Json.isWrittenIff_textAt 0 _, fun text htext => ?_⟩
  exact isReadBack_linesText htidy htext

/-- The command prints that about a file that is read as the module, with nothing as an error. -/
theorem markers_read_back {s : CommandLine.Surroundings} {file : String}
    (hread : (readModule s.files s.directory (GivenPath.ofText file).text).value = some m)
    (hfloats : HasNormalFloats m) :
    ∃ classes, inspect packaged Rule.catalog m = .ok classes ∧
      IsWrittenIff (CommandLine.markers s file) ((Json.ofInspection classes).isShort = true) ∧
      ∀ done, CommandLine.markers s file = .ok done →
        done.value.status = CommandLine.successStatus ∧ done.value.errors = "" ∧
          (Json.ofInspection classes).IsReadBack done.value.output := by
  obtain ⟨classes, hclasses, htidy⟩ := exists_inspect_isTidy hfloats
  have hmarkers : CommandLine.markers s file =
      (Json.ofInspection classes).render >>= fun text =>
        .ok ⟨CommandLine.printed (Audit.linesText [text]),
          (readModule s.files s.directory (GivenPath.ofText file).text).log ++
            log packaged Rule.catalog m⟩ := by
    unfold CommandLine.markers
    simp only [hread, hclasses, ok_bind]
  have hwritten : IsWrittenIff (Json.ofInspection classes).render
      ((Json.ofInspection classes).isShort = true) := Json.isWrittenIff_textAt 0 _
  rw [hmarkers]
  refine ⟨classes, hclasses, ?_, fun done hdone => ?_⟩
  · exact hwritten.bind_ok _
  obtain ⟨text, htext, hdone⟩ := bind_eq_ok_iff.mp hdone
  cases hdone
  exact ⟨rfl, rfl, isReadBack_linesText htidy htext⟩

/-- A module with a class that has a journey with a constant in it. -/
def journeyModule (c : Constant) : Module :=
  let nowhere : Span := ⟨none, none, none, none⟩
  ⟨some "a.py", "a", [.classDef nowhere "C"
    [.call nowhere (.name nowhere "Journey") [] [(some "share", .constant nowhere c)]] []]⟩

/-- The only number in it is that constant. -/
theorem hasNormalFloats_journeyModule {c : Constant} (hc : ∀ x, c = .float x → x.IsNormal) :
    HasNormalFloats (journeyModule c) := by
  have hname (s : Span) (id : String) : (Expr.name s id).HasNormalFloats := by
    rintro x (_ | ⟨⟨⟩, -⟩)
  have hconstant (s : Span) : (Expr.constant s c).HasNormalFloats := by
    apply Expr.hasNormalFloats_of_parts
    · rintro _ x ⟨⟩
      exact hc x rfl
    · exact List.forall_mem_nil _
  intro d hd e he
  obtain rfl := List.mem_singleton.mp hd
  obtain rfl := List.mem_singleton.mp he
  apply Expr.hasNormalFloats_of_parts
  · rintro _ _ ⟨⟩
  · exact List.forall_mem_cons.mpr ⟨hname _ _, List.forall_mem_cons.mpr
      ⟨hconstant _, List.forall_mem_nil _⟩⟩

/-- A written fraction is a number of the format. -/
theorem hasNormalFloats_fraction (f : Fraction) :
    HasNormalFloats (journeyModule (.float f.value)) := by
  apply hasNormalFloats_journeyModule
  intro x hx
  rw [← Constant.float.inj hx, Fraction.value]
  exact Binary64.isNormal_ofDecimal false _ _

/-- What is computed of the document about a module holds of the tidy document about it. -/
theorem exists_inspect_of_all (hfloats : HasNormalFloats m) {p : Json → Bool}
    (hp : ((inspect packaged Rule.catalog m).toOption.all fun classes =>
      p (Json.ofInspection classes)) = true) :
    ∃ classes, inspect packaged Rule.catalog m = .ok classes ∧
      (Json.ofInspection classes).IsTidy ∧ p (Json.ofInspection classes) = true := by
  obtain ⟨classes, hclasses, htidy⟩ := exists_inspect_isTidy hfloats
  rw [hclasses] at hp
  exact ⟨classes, hclasses, htidy, hp⟩

theorem printed_read_back_iff_oneAndAHalf :
    HasNormalFloats (journeyModule (.float (Fraction.mk ['1'] ['5'] 0).value)) ∧
      ∃ classes text, inspect packaged Rule.catalog
          (journeyModule (.float (Fraction.mk ['1'] ['5'] 0).value)) = .ok classes ∧
        (Json.ofInspection classes).render = .ok text ∧
        Json.read? (Audit.linesText [text]) = some (Json.ofInspection classes) := by
  have hfloats := hasNormalFloats_fraction ⟨['1'], ['5'], 0⟩
  obtain ⟨classes, hclasses, hwritten, hread⟩ := printed_read_back_iff hfloats
  obtain ⟨classes', hclasses', -, hnumbers⟩ := exists_inspect_of_all hfloats
    (p := fun j => j.isShort && (j.isFinite && j.isPairless)) (by decide +kernel)
  obtain rfl := Except.ok.inj (hclasses.symm.trans hclasses')
  obtain ⟨hshort, hrest⟩ := Bool.and_eq_true_iff.mp hnumbers
  obtain ⟨text, htext⟩ := hwritten.1 hshort
  have hsame := (hread text htext).same_iff.mpr (Bool.and_eq_true_iff.mp hrest)
  exact ⟨hfloats, classes, text, hclasses, htext, hsame⟩

/-- Of an overflowing constant, and of an integer beyond the digit limit, no JSON is printed. Of a
pair of surrogates another document is printed. -/
theorem overflow_not_printed :
    (∃ classes text, inspect packaged Rule.catalog
        (journeyModule (.float (Fraction.mk ['1'] [] 999).value)) = .ok classes ∧
      (Json.ofInspection classes).render = .ok text ∧
      Json.read? (Audit.linesText [text]) = none) ∧
    (∃ classes, inspect packaged Rule.catalog
        (journeyModule (.integer firstRefused)) = .ok classes ∧
      (Json.ofInspection classes).render = .error .tooManyDigits) ∧
    ∃ classes text, inspect packaged Rule.catalog
        (journeyModule (.text [.surrogate 0, .surrogate 0x400])) = .ok classes ∧
      (Json.ofInspection classes).render = .ok text ∧
      ∃ other, Json.read? (Audit.linesText [text]) = some other ∧
        other ≠ Json.ofInspection classes := by
  refine ⟨?_, ?_, ?_⟩
  · obtain ⟨classes, hclasses, htidy, hnumbers⟩ := exists_inspect_of_all
      (hasNormalFloats_fraction ⟨['1'], [], 999⟩) (p := fun j => j.isShort && !j.isFinite)
      (by decide +kernel)
    obtain ⟨hshort, hinfinite⟩ := Bool.and_eq_true_iff.mp hnumbers
    obtain ⟨text, htext⟩ := (Json.isWrittenIff_textAt 0 (Json.ofInspection classes)).1 hshort
    refine ⟨classes, text, hclasses, htext, ?_⟩
    rw [(isReadBack_linesText htidy htext).read, if_neg (by simpa using hinfinite)]
  · have hfloats : HasNormalFloats (journeyModule (.integer firstRefused)) :=
      hasNormalFloats_journeyModule nofun
    obtain ⟨classes, hclasses, -, hlong⟩ := exists_inspect_of_all hfloats
      (p := fun j => !j.isShort) (by decide +kernel)
    refine ⟨classes, hclasses, (Json.isWrittenIff_textAt 0 (Json.ofInspection classes)).2 ?_⟩
    simpa using hlong
  · have hfloats : HasNormalFloats (journeyModule (.text [.surrogate 0, .surrogate 0x400])) :=
      hasNormalFloats_journeyModule nofun
    obtain ⟨classes, hclasses, htidy, hpair⟩ := exists_inspect_of_all hfloats
      (p := fun j => j.isShort && (j.isFinite && !j.isPairless)) (by decide +kernel)
    obtain ⟨hshort, hrest⟩ := Bool.and_eq_true_iff.mp hpair
    obtain ⟨hfinite, hpair⟩ := Bool.and_eq_true_iff.mp hrest
    obtain ⟨text, htext⟩ := (Json.isWrittenIff_textAt 0 (Json.ofInspection classes)).1 hshort
    refine ⟨classes, text, hclasses, htext, _, ?_, mt htidy.joined_eq_self_iff.mp ?_⟩
    · rw [(isReadBack_linesText htidy htext).read, if_pos hfinite]
    · simpa using hpair

end Inspection

end MarkerLint
