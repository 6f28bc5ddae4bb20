import MarkerLint.Proofs.MessageSearch

/-!
# Looking up declared messages

Every message that a rule declares has a code and a symbol, and a person may look the rule up by
either. The code always belongs to a message of the rule's entry. The symbol need not: a message that
is registered without one is declared under its id, which the search does not know. Nor does the search
ask for a template, so a message of another rule may answer although it is not declared.
-/

namespace MarkerLint.Guidance

open Registry

variable {g : Guidance} {ruleId : String} {entry : Table Value}

/-- The messages of a rule are among the stops of the search. -/
theorem message_mem_stops (hkey : isRuleKey (keyOf ruleId) = true)
    (hentry : g.entry? ruleId = some entry) {messages : Table Value}
    (hmessages : messagesOf .values entry = .ok messages) {id : String} {fields : Table Value}
    (hmem : (id, .table fields) ∈ messages) : .message entry fields ∈ g.stops := by
  obtain ⟨document, hget, hdocument⟩ := Option.bind_eq_some_iff.mp hentry
  refine mem_stops_iff.mpr
    ⟨(keyOf ruleId, document), Table.mem_of_get?_eq_some hget, hkey, ?_⟩
  rw [stopsAt_eq_messageStops hdocument hmessages]
  exact mem_messageStops_iff.mpr ⟨id, fields, hmem, rfl⟩

/-- A declared code is that of a message of the rule. -/
theorem exists_hit_of_definitions (hkey : isRuleKey (keyOf ruleId) = true)
    (hentry : g.entry? ruleId = some entry) {definitions : Table MessageDefinition}
    (hdefinitions : g.registry.definitions ruleId = .ok definitions) {code : String}
    {d : MessageDefinition} (hd : definitions.get? code = some d) :
    ∃ s ∈ g.stops, s.IsHit code entry := by
  have hregistered : g.registry.entry? ruleId = .ok (some entry) := congrArg Except.ok hentry
  rw [definitions_eq_bind hregistered] at hdefinitions
  obtain ⟨messages, hmessages, hadd⟩ := bind_eq_ok_iff.mp hdefinitions
  rcases get?_addDefinitions hadd code with ⟨d', hlast, -⟩ | ⟨-, hnone⟩
  · obtain ⟨before, id, message, after, rfl, hdefined, -⟩ := hlast
    obtain ⟨fields, -, rfl, -, hcode, -⟩ := definition?_eq_some_iff.mp hdefined
    exact ⟨_, message_mem_stops hkey hentry (messagesOf_eq_ok_of_eq_ok hmessages .values)
      (List.mem_append_right before List.mem_cons_self), fields, rfl, .inr hcode⟩
  · cases hd.symm.trans hnone

/-- A rule is found by a code and by the symbol that it declares under it exactly if it registers the
symbol itself and nothing in front of its messages holds the search up. -/
theorem declared_found_iff {definitions : Table MessageDefinition} {code : String}
    {d : MessageDefinition} (hkey : Text.endsWith "._default" (keyOf ruleId) = false)
    (hentry : g.entry? ruleId = some entry)
    (hdefinitions : g.registry.definitions ruleId = .ok definitions)
    (hd : definitions.get? code = some d) :
    (g.find? code = .ok (some entry) ∧ g.find? d.symbol = .ok (some entry)) ↔
      (∃ s ∈ g.stops, s.IsHit d.symbol entry) ∧
        ¬ IsHeldUp code entry g.stops ∧ ¬ IsHeldUp d.symbol entry g.stops := by
  have hrule : isRuleKey (keyOf ruleId) = true := by
    rw [isRuleKey, beginsWith_keyOf, hkey]
    rfl
  have hcode := exists_hit_of_definitions hrule hentry hdefinitions hd
  rw [find?_eq_ok_iff, find?_eq_ok_iff, endsWith_some_iff, endsWith_some_iff]
  constructor
  · rintro ⟨⟨-, hcodeFree⟩, hsymbol, hsymbolFree⟩
    exact ⟨hsymbol, hcodeFree, hsymbolFree⟩
  · rintro ⟨hsymbol, hcodeFree, hsymbolFree⟩
    exact ⟨⟨hcode, hcodeFree⟩, hsymbol, hsymbolFree⟩

/-- A message with a symbol of its own and a template. -/
def plainMessage (symbol : String) : Table Value :=
  [("symbol", .text symbol), ("message_template", .text "Text.")]

/-- An entry with the number of its checker and one message. -/
def plainEntry (checker symbol : String) : Table Value :=
  [("checker_id", .text checker), ("messages", .table [("m", .table (plainMessage symbol))])]

/-- Two rules with one message each. -/
def plainRules : Guidance :=
  ⟨[("aabha.first", .table (plainEntry "51" "first-m")),
    ("aabha.second", .table (plainEntry "52" "second-m"))]⟩

theorem declared_found_iff_plainRules :
    ∃ definitions d, plainRules.entry? "second" = some (plainEntry "52" "second-m") ∧
      plainRules.registry.definitions "second" = .ok definitions ∧
      definitions.get? "E5201" = some d ∧ d.symbol = "second-m" ∧
      plainRules.find? "E5201" = .ok (some (plainEntry "52" "second-m")) ∧
      plainRules.find? d.symbol = .ok (some (plainEntry "52" "second-m")) := by
  have hstops : plainRules.stops =
      [.message (plainEntry "51" "first-m") (plainMessage "first-m"),
        .message (plainEntry "52" "second-m") (plainMessage "second-m")] := rfl
  have hfree (name : String) (hsymbol : "first-m" ≠ name) (hcode : "E5101" ≠ name)
      (hknown : IsKnownAs name (plainEntry "52" "second-m") (plainMessage "second-m")) :
      ¬ IsHeldUp name (plainEntry "52" "second-m") plainRules.stops := by
    rw [hstops]
    refine not_isHeldUp_of_forall (List.forall_mem_cons.mpr ⟨.inr ⟨?_, "E5101", rfl, hcode⟩,
      List.forall_mem_singleton.mpr (.inl ⟨_, rfl, hknown⟩)⟩)
    simpa [plainMessage, Table.get?] using hsymbol
  have hkey : Text.endsWith "._default" (keyOf "second") = false := by decide
  refine ⟨_, _, rfl, rfl, rfl, rfl, (declared_found_iff hkey rfl rfl rfl).mpr
    ⟨⟨_, by rw [hstops]; exact List.mem_cons_of_mem _ List.mem_cons_self, _, rfl, .inl rfl⟩, ?_, ?_⟩⟩
  · exact hfree "E5201" (by decide) (by decide) (.inr rfl)
  · exact hfree "second-m" (by decide) (by decide) (.inl rfl)

/-- The first rule has a message without a template; the second has one without a symbol, and another
one with the symbol of the first. -/
def unevenRules : Guidance :=
  ⟨[("aabha.first", .table [("messages", .table [("note", .table [("symbol", .text "shared")])])]),
    ("aabha.second", .table [("checker_id", .text "52"), ("messages", .table
      [("unnamed", .table [("message_template", .text "Text.")]),
       ("named", .table [("number", .text "02"), ("symbol", .text "shared"),
        ("message_template", .text "Text.")])])])]⟩

/-- The first rule declares nothing, yet the second is not found by the symbols that it declares. -/
theorem declared_symbols_not_found :
    ∃ first second d e, unevenRules.entry? "first" = some first ∧
      unevenRules.entry? "second" = some second ∧
      unevenRules.registry.definitions "first" = .ok [] ∧
      unevenRules.registry.definitions "second" = .ok [("E5201", d), ("E5202", e)] ∧
      d.symbol = "unnamed" ∧ unevenRules.find? "unnamed" = .ok none ∧
      e.symbol = "shared" ∧ unevenRules.find? "shared" = .ok (some first) ∧ first ≠ second := by
  refine ⟨_, _, _, _, rfl, rfl, rfl, rfl, rfl, rfl, rfl, rfl, fun h => ?_⟩
  have hlength := congrArg List.length h
  cases hlength

end MarkerLint.Guidance
