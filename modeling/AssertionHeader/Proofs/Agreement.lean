import AssertionHeader.Proofs.Meaning.Code
import AssertionHeader.Proofs.Meaning.English

/-!
# Names, tests and texts agree

What an assertion tests is computed apart from what is said of it.  The test comes from the
inversion of the polarity, the inversions that `Success`, `False` and `NE` carry, equalities that
absorb an inversion and a leading `!`.  The texts come from a statement for the passing or the
failing case.

`Name.decode_expression_eval` compares the test with the name, and `Assertion.make_describes` the
texts with the test.  Both speak of the texts themselves, as C and English are read, in every world.
-/

namespace AssertionHeader

/-! ## The test and the name -/

/-- **An assertion tests what its name spells.**  The emitted test, read as C, is true exactly if
the spelled condition holds, or, behind `Assert_not` and `Fail_if`, exactly if it does not.  An
inversion that the condition absorbs is not written a second time. -/
theorem Name.decode_expression_eval (token : String) (a : Assertion)
    (h : decode token = assertion a) :
    ∃ polarity spelling sense, Names token.toList polarity spelling sense ∧
      ∀ (settings : Settings) (world : World),
        Expression.ofText? settings.failureCondition (a.expression settings).text.toList =
            some (a.expression settings) ∧
          (a.expression settings).eval world =
            polarity.demands (sense.holds world settings.failureCondition) ∧
          (a.condition.expressesInversion = true → (a.expression settings).negated = false) := by
  obtain ⟨polarity, spelling, sense, hnames, rfl⟩ := decode_eq_assertion_iff.1 h
  refine ⟨polarity, spelling, sense, hnames, fun settings world => ⟨?_, ?_, fun hexpress => ?_⟩⟩
  · exact Assertion.ofText?_expression _ _ _ _ _ _ hnames.spells.isIdentifier_operandType
  · exact sense.eval_expression token polarity settings world
  · have hcondition : (sense.condition polarity.inverts).expressesInversion = true := hexpress
    simp [Sense.assertion, Assertion.make, Assertion.expression, hcondition]

theorem Name.decode_expression_eval_temperature :
    let a := Sense.assertion (.order "Temperature" .ne) "Fail_if_TemperatureNE" .failIf
    decode "Fail_if_TemperatureNE" = assertion a ∧
      ∃ polarity spelling sense, Names "Fail_if_TemperatureNE".toList polarity spelling sense ∧
        ∀ (settings : Settings) (world : World),
          Expression.ofText? settings.failureCondition (a.expression settings).text.toList =
              some (a.expression settings) ∧
            (a.expression settings).eval world =
              polarity.demands (sense.holds world settings.failureCondition) ∧
            (a.condition.expressesInversion = true → (a.expression settings).negated = false) :=
  ⟨rfl, decode_expression_eval _ _ rfl⟩

/-! ## The texts and the test -/

/-- What the summary of an assertion opens with. -/
def Polarity.opening : Polarity → String
  | assert | assertNot => "Asserts that "
  | failIf => "Fails if "
  | failUnless => "Fails unless "

namespace Assertion

/-- The clause, read as English, says of the operands what is true in exactly those worlds in which
the expression has the given outcome. -/
def Says (a : Assertion) (settings : Settings) (outcome : Bool) (clause : String) : Prop :=
  ∃ statement, Statement.ofText? a.operands clause.toList = some statement ∧
    ∀ world, statement.holds world settings.failureCondition (Comparator.nameFor a.operandType) =
      ((a.expression settings).eval world == outcome)

section

variable (name : String) (polarity : Polarity) (inverted : Bool) (condition : Condition)
  (operandType : String) (settings : Settings)

lemma operands_statement (passes : Bool) :
    ((make name polarity inverted condition operandType).statement passes).operands =
      (make name polarity inverted condition operandType).operands := by
  cases condition <;>
    simp [make, statement, statementFor, Condition.statement, Condition.operandNames,
      Statement.operands]

lemma says_statement (passes : Bool) :
    (make name polarity inverted condition operandType).Says settings passes
      ((make name polarity inverted condition operandType).statement passes).message.plain := by
  refine ⟨_, ?_, fun world => statement_holds _ settings passes world⟩
  rw [← operands_statement]
  exact Statement.ofText?_message _

lemma summary_make :
    (make name polarity inverted condition operandType).summary =
      polarity.opening ++ ((make name polarity inverted condition operandType).statement
        (polarity != .failIf)).message.plain ++ "." := by
  cases polarity <;> rfl

lemma message_make (h : condition ≠ .boolean) :
    (make name polarity inverted condition operandType).message =
      ((make name polarity inverted condition operandType).statement false).message := by
  cases condition <;> first | rfl | exact absurd rfl h

end

/-- **The texts of an assertion describe the test that it makes**, for every name, polarity,
condition and operand type, whether or not a macro name spells them. -/
theorem make_describes (name : String) (polarity : Polarity) (inverted : Bool)
    (condition : Condition) (operandType : String) (settings : Settings) :
    let a := make name polarity inverted condition operandType
    (∀ passes, a.Says settings passes (a.statement passes).message.plain) ∧
      (∃ clause, a.summary = polarity.opening ++ clause ++ "." ∧
        a.Says settings (polarity != .failIf) clause) ∧
      (condition ≠ .boolean → a.Says settings false a.message.plain) ∧
      (condition = .boolean →
        ("Negative assertion".toList <+: a.message.plain.toList ↔
          (a.expression settings).negated = true)) ∧
      (Identifier.isIdentifier operandType.toList = true →
        Expression.ofText? settings.failureCondition (a.expression settings).text.toList =
          some (a.expression settings)) := by
  intro a
  refine ⟨says_statement name polarity inverted condition operandType settings, ?_, ?_, ?_, ?_⟩
  · exact ⟨(a.statement (polarity != .failIf)).message.plain,
      summary_make name polarity inverted condition operandType,
      says_statement name polarity inverted condition operandType settings _⟩
  · intro hcondition
    have hmessage := message_make name polarity inverted condition operandType hcondition
    exact hmessage ▸ says_statement name polarity inverted condition operandType settings false
  · intro hcondition
    subst hcondition
    have hplain : a.message.plain =
        if inverted then "Negative assertion expr failed" else "Assertion expr failed" := by
      cases inverted <;> rfl
    have hnegated : (a.expression settings).negated = inverted := by
      cases inverted <;> rfl
    rw [hplain, hnegated]
    cases inverted <;> decide
  · exact ofText?_expression name polarity inverted condition operandType settings

end Assertion

end AssertionHeader
