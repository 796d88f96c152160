import AssertionHeader.Proofs.Written

/-!
# Comparators that assertions call

An assertion of an order calls the comparator of its operand type.  The header should either define
that comparator or tell the user to define it, on behalf of the assertion.  `accounts_iff` says when
it does: always, except if the comparator's own name was delivered and spells nothing.  Then the
block of the unrecognized name defines the macro as far as the ledger can tell, and so settles the
need, although what it defines is no comparator and does not compile where it is used.

The name of a comparator spells nothing exactly if its operand type opens like an assertion
(`Name.decode_nameFor`); such types are rare, but nothing excludes them.
-/

namespace AssertionHeader

namespace Header

/-- The header defines the comparator, or its note says that the user has to, for the given
assertion. -/
def Accounts (header : Header) (comparator user : String) : Prop :=
  (∃ block ∈ header.comparators, block.name = comparator) ∨
    ∃ need ∈ header.missing, need.name = comparator ∧ user ∈ need.users

end Header

namespace Assertion

lemma comparator?_eq_some {a : Assertion} {comparator : String}
    (h : a.comparator? = some comparator) : comparator = Comparator.nameFor a.operandType := by
  unfold comparator? at h
  split at h
  · exact (Option.some.inj h).symm
  · cases h

lemma isIdentifier_operandType {token : String} {a : Assertion}
    (h : Name.decode token = .assertion a) :
    Identifier.isIdentifier a.operandType.toList = true := by
  obtain ⟨polarity, spelling, sense, hnames, rfl⟩ := Name.decode_eq_assertion_iff.1 h
  exact hnames.spells.isIdentifier_operandType

lemma name_of_decode {token : String} {a : Assertion} (h : Name.decode token = .assertion a) :
    a.name = token := by
  rw [← Name.text_decode token, h]
  rfl

end Assertion

namespace Run

variable {settings : Settings} {tokens : List String}

/-- The comparators of a header are those that were delivered and those that are written for want of
them. -/
lemma exists_comparator_block {name : String} :
    (∃ block ∈ (ofTokens settings tokens).resolve.comparators, block.name = name) ↔
      (name ∈ tokens ∧ ∃ c, Name.decode name = .comparator c) ∨
        ∃ c ∈ builtins settings tokens, c.name = name := by
  have hwritten : (∃ block ∈ (ofTokens settings tokens).comparators, block.name = name) ↔
      name ∈ tokens ∧ ∃ c, Name.decode name = .comparator c := by
    simp only [mem_comparators_ofTokens]
    constructor
    · rintro ⟨block, ⟨token, htoken, hcomparator, rfl⟩, rfl⟩
      rw [Name.name_block, Name.text_decode]
      refine ⟨htoken, ?_⟩
      cases hdecode : Name.decode token with
      | comparator c => exact ⟨c, rfl⟩
      | assertion | unrecognized => simp [hdecode, Name.isComparator] at hcomparator
    · rintro ⟨htoken, c, hdecode⟩
      refine ⟨_, ⟨name, htoken, by rw [hdecode]; rfl, rfl⟩, ?_⟩
      rw [Name.name_block, Name.text_decode]
  have hbuiltin : (∃ block ∈ (builtins settings tokens).map (·.block settings),
      block.name = name) ↔ ∃ c ∈ builtins settings tokens, c.name = name := by
    simp [Comparator.block]
  rw [resolve_comparators, ← hwritten, ← hbuiltin]
  simp only [List.mem_append, or_and_right, exists_or]

lemma accounts_iff_history {comparator user : String} :
    (ofTokens settings tokens).resolve.header.Accounts comparator user ↔
      ((comparator ∈ tokens ∧ ∃ c, Name.decode comparator = .comparator c) ∨
        ∃ c ∈ builtins settings tokens, c.name = comparator) ∨
      .needBy comparator user ∈ history settings tokens ∧
        .define comparator ∉ fullHistory settings tokens := by
  have hmissing : (ofTokens settings tokens).resolve.header.missing =
      (Ledger.ofHistory (fullHistory settings tokens)).unresolved := by
    rw [← resolve_ledger]
    rfl
  rw [← needBy_mem_fullHistory, ← Ledger.exists_unresolved_user, ← exists_comparator_block,
    Header.Accounts, hmissing]
  rfl

/-- A comparator whose name was not delivered is written or noted. -/
lemma accounts_of_not_mem {operandType user : String}
    (hneed : .needBy (Comparator.nameFor operandType) user ∈ history settings tokens)
    (hfed : Comparator.nameFor operandType ∉ tokens) :
    (ofTokens settings tokens).resolve.header.Accounts (Comparator.nameFor operandType) user := by
  rw [accounts_iff_history]
  by_cases hbuiltin : operandType ∈ Comparator.builtinTypes
  · refine .inl (.inr ⟨.ofType operandType, ?_, rfl⟩)
    exact Ledger.mem_neededBuiltins.2 ⟨operandType, hbuiltin, rfl,
      Ledger.mem_requestedBy_of_mem_usersIn (Ledger.mem_usersIn.2 hneed),
      mt define_mem_history.1 hfed⟩
  · refine .inr ⟨hneed, fun hdefine => ?_⟩
    rcases define_mem_fullHistory.1 hdefine with htoken | ⟨c, hc, hname⟩
    · exact hfed htoken
    · obtain ⟨other, hother, rfl, -⟩ := Ledger.mem_neededBuiltins.1 hc
      exact hbuiltin (Comparator.nameFor_inj.1 hname ▸ hother)

/-- A comparator is neither written nor noted if its name was delivered and spells nothing. -/
lemma not_accounts_of_unrecognized {comparator user : String} (hfed : comparator ∈ tokens)
    (hdecode : Name.decode comparator = .unrecognized comparator) :
    ¬ (ofTokens settings tokens).resolve.header.Accounts comparator user := by
  rw [accounts_iff_history]
  rintro ((⟨-, c, hc⟩ | ⟨c, hc, rfl⟩) | ⟨-, hdefine⟩)
  · rw [hdecode] at hc
    cases hc
  · obtain ⟨operandType, -, rfl, -, hdefine⟩ := Ledger.mem_neededBuiltins.1 hc
    exact hdefine (define_mem_history.2 hfed)
  · exact hdefine (define_mem_fullHistory.2 (.inl hfed))

end Run

/-- **When the comparators of assertions are accounted for.**  In every header that is written, the
comparator that an assertion calls is defined, or noted on behalf of the assertion, exactly if its
name was not delivered as a name that spells nothing. -/
theorem Header.accounts_iff (settings : Settings) (lines : List String) :
    let header := ((Run.start settings).feedLines lines).resolve.header
    generate settings lines = header.render ∧
      ∀ block ∈ header.assertions, ∀ a, Name.decode block.name = .assertion a →
        ∀ comparator, a.comparator? = some comparator →
          (header.Accounts comparator block.name ↔
            ¬ (comparator ∈ Run.candidates lines ∧
              Name.decode comparator = .unrecognized comparator)) := by
  intro header
  refine ⟨rfl, fun block hblock a hdecode comparator hcomparator => ?_⟩
  have hrun := Run.feedLines_start settings lines
  set tokens := (Run.candidates lines).eraseDups with htokens
  have hfed : comparator ∈ Run.candidates lines ↔ comparator ∈ tokens := by
    simp [htokens]
  have hheader : header = (Run.ofTokens settings.normalized tokens).resolve.header := by
    rw [← hrun]
  have htoken : block.name ∈ tokens := by
    rw [hheader] at hblock
    obtain ⟨token, htoken, -, rfl⟩ := Run.mem_assertions_ofTokens.1 hblock
    rwa [Name.name_block, Name.text_decode]
  have hneed : .needBy comparator block.name ∈ Run.history settings.normalized tokens :=
    Run.needBy_mem_history.2
      ⟨block.name, htoken, a, hdecode, hcomparator, (Assertion.name_of_decode hdecode).symm⟩
  obtain rfl := Assertion.comparator?_eq_some hcomparator
  rw [hfed, hheader]
  by_cases hmem : Comparator.nameFor a.operandType ∈ tokens
  · rcases Name.decode_nameFor (Assertion.isIdentifier_operandType hdecode) with
      ⟨hname, -⟩ | ⟨hname, -⟩
    · refine iff_of_true ?_ fun h => by simp [hname] at h
      exact Run.accounts_iff_history.2 (.inl (.inl ⟨hmem, _, hname⟩))
    · exact iff_of_false (Run.not_accounts_of_unrecognized hmem hname) fun h => h ⟨hmem, hname⟩
  · exact iff_of_true (Run.accounts_of_not_mem hneed hmem) fun h => hmem h.1

theorem Header.accounts_temperature :
    ((Run.start {}).feedLines ["Assert_TemperatureLT"]).resolve.header.Accounts
      "Temperature_compare" "Assert_TemperatureLT" := by
  obtain ⟨-, haccounts⟩ := accounts_iff {} ["Assert_TemperatureLT"]
  refine (haccounts ((Name.decode "Assert_TemperatureLT").block (Settings.normalized {})) ?_
    (Sense.assertion (.order "Temperature" .lt) "Assert_TemperatureLT" .assert) rfl
    "Temperature_compare" rfl).2 (by decide)
  rw [Run.feedLines_start]
  exact Run.mem_assertions_ofTokens.2 ⟨"Assert_TemperatureLT", by decide, by decide, rfl⟩

/-- An assertion on the type `Assert_Foo` calls a comparator that the header neither defines nor
notes once the comparator's own name is delivered. -/
theorem Header.not_accounts_placeholder :
    let header := ((Run.start {}).feedLines
      ["Assert_Assert_FooEQ", "Assert_Foo_compare"]).resolve.header
    ∃ block ∈ header.assertions, ∃ a, Name.decode block.name = .assertion a ∧
      a.comparator? = some "Assert_Foo_compare" ∧
        ¬ header.Accounts "Assert_Foo_compare" block.name := by
  intro header
  have hheader : header = (Run.ofTokens (Settings.normalized {})
      (Run.candidates ["Assert_Assert_FooEQ", "Assert_Foo_compare"]).eraseDups).resolve.header := by
    rw [← Run.feedLines_start]
  refine ⟨(Name.decode "Assert_Assert_FooEQ").block (Settings.normalized {}), ?_,
    Sense.assertion (.order "Assert_Foo" .eq) "Assert_Assert_FooEQ" .assert, rfl, rfl, ?_⟩
  · rw [hheader]
    exact Run.mem_assertions_ofTokens.2 ⟨"Assert_Assert_FooEQ", by decide, by decide, rfl⟩
  · rw [hheader]
    exact Run.not_accounts_of_unrecognized (by decide) (by decide)

end AssertionHeader
