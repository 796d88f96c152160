import AssertionHeader.Expression
import AssertionHeader.Proofs.Grammar

/-!
# What tests and sentences mean

The operands of an assertion are fragments of C whose values are known to the compiler alone.  A
`World` fixes whatever a test may depend on, and everything that is said about operands becomes
true or false in it: the C expression of an assertion (`Expression.eval`), a sentence of its
documentation (`Statement.holds`) and the condition that its name spells (`Sense.holds`).

These three are defined apart from each other, each by the meaning of its own vocabulary.  The
lemmas at the end compare them: `Condition.statement_holds` for sentences and tests, and
`Sense.eval_expression` for names and tests.
-/

namespace AssertionHeader

/-! ## Worlds -/

/-- What a test may depend on.  Operands are known by the text that stands for them. -/
structure World where
  /-- Whether the expression is true. -/
  isTrue : String → Bool
  /-- Whether the operation satisfies the condition that is written after it. -/
  satisfies : String → String → Bool
  /-- Whether the pointer is `NULL`. -/
  isNull : String → Bool
  /-- The value of the expression. -/
  value : String → Int
  /-- Whether both expressions are the same. -/
  areSame : String → String → Bool
  /-- What the comparator of the given name yields for two operands. -/
  compare : String → String → String → Int

/-- Whether the relation holds between operands for which a comparator yields `c`. -/
def Relation.holds (c : Int) : Relation → Bool
  | lt => c < 0
  | le => c ≤ 0
  | eq => c = 0
  | ge => 0 ≤ c
  | gt => 0 < c
  | ne => c ≠ 0

/-- Whether values that are equal, or are not, stand as required. -/
def Equality.holds (equal : Bool) : Equality → Bool
  | .equal => equal
  | .notEqual => !equal

@[simp] lemma Relation.holds_negated (c : Int) (relation : Relation) :
    relation.negated.holds c = !relation.holds c := by
  rw [Bool.eq_iff_iff]
  cases relation <;> simp [negated, holds]

@[simp] lemma Relation.holds_base (c : Int) (relation : Relation) :
    relation.base.holds c = (relation.holds c != relation.isNegated) := by
  cases relation <;> simp [base, isNegated, holds, beq_eq_decide]

@[simp] lemma Equality.holds_ofInvert (equal invert : Bool) :
    (ofInvert invert).holds equal = (equal != invert) := by
  cases invert <;> simp [ofInvert, holds]

/-! ## Expressions, sentences and names -/

/-- Whether the test succeeds. -/
def Test.eval (world : World) : Test → Bool
  | truth operand => world.isTrue operand
  | failure operand condition => world.satisfies operand condition
  | null operand equality => equality.holds (world.isNull operand)
  | literal operand equality value => equality.holds (world.value operand == value)
  | order comparator first second relation => relation.holds (world.compare comparator first second)
  | identity first equality second => equality.holds (world.areSame first second)

/-- Whether the expression is true. -/
def Expression.eval (world : World) (expression : Expression) : Bool :=
  if expression.negated then !expression.test.eval world else expression.test.eval world

/-- Whether the sentence is true, where an operation that satisfies `failureCondition` failed and
`comparator` orders the operands. -/
def Statement.holds (world : World) (failureCondition comparator : String) : Statement → Bool
  | truth operand holds => world.isTrue operand == holds
  | failure operand holds => world.satisfies operand failureCondition == holds
  | null operand holds => world.isNull operand == holds
  | number operand value holds => (world.value operand == value) == holds
  | order first relation second => relation.holds (world.compare comparator first second)
  | sameness first second holds => world.areSame first second == holds

/-- Whether the operands are as the spelled condition asks. -/
def Sense.holds (world : World) (failureCondition : String) : Sense → Bool
  | plain => world.isTrue "expr"
  | outcome failed => world.satisfies "expr" failureCondition == failed
  | truth value => world.isTrue "expr" == value
  | null => world.isNull "expr"
  | number value => world.value "expr" == value
  | same => world.areSame "arg1" "arg2"
  | order operandType relation =>
    relation.holds
      (world.compare (operandType ++ "_compare") (operandType ++ "1") (operandType ++ "2"))

/-- Whether an assertion passes, given whether the condition behind its polarity holds. -/
def Polarity.demands (holds : Bool) : Polarity → Bool
  | assert | failUnless => holds
  | assertNot | failIf => !holds

lemma Polarity.demands_eq (holds : Bool) (polarity : Polarity) :
    polarity.demands holds = (holds != polarity.inverts) := by
  cases polarity <;> simp [demands, inverts]

/-! ## Comparisons -/

lemma Expression.eval_eq (world : World) (expression : Expression) :
    expression.eval world = (expression.test.eval world != expression.negated) := by
  cases h : expression.negated <;> simp [eval, h]

/-- What a condition states of its operands is true exactly if its test comes out so. -/
lemma Condition.statement_holds (condition : Condition) (settings : Settings) (operandType : String)
    (operands : List String) (holds : Bool) (world : World) :
    (condition.statement operands holds).holds world settings.failureCondition
        (Comparator.nameFor operandType) =
      ((condition.test settings operandType operands).eval world == holds) := by
  cases condition with
  | boolean | status | truth => rfl
  | null equality | literal value equality | identity equality =>
    cases equality <;> cases holds <;>
      simp [statement, test, Statement.holds, Test.eval, Equality.holds, Equality.isEqual]
  | order relation =>
    cases holds <;> simp [statement, test, Statement.holds, Test.eval]

/-- The statement of an assertion for one of the two cases is true exactly if its expression says
that this is the case. -/
lemma Assertion.statement_holds (assertion : Assertion) (settings : Settings) (passes : Bool)
    (world : World) :
    (assertion.statement passes).holds world settings.failureCondition
        (Comparator.nameFor assertion.operandType) =
      ((assertion.expression settings).eval world == passes) := by
  rw [statement, statementFor, Condition.statement_holds, Expression.eval_eq]
  simp only [expression]
  cases passes <;> cases assertion.inverted <;> simp

/-- The test of a sense, under either polarity, succeeds exactly if the condition that it asks for
holds, up to the inversions that are not applied in the test itself. -/
lemma Sense.eval_test (sense : Sense) (inverts : Bool) (settings : Settings) (world : World) :
    (((sense.condition inverts).test settings sense.operandType
        ((sense.condition inverts).operandNames sense.operandType)).eval world) =
      (sense.holds world settings.failureCondition !=
        if (sense.condition inverts).expressesInversion then inverts else sense.isContrary) := by
  cases sense with
  | plain => simp [condition, Condition.test, Condition.operandNames, Test.eval, holds,
      Condition.expressesInversion, isContrary]
  | outcome value | truth value =>
    cases value <;> simp [condition, Condition.test, Condition.operandNames, Test.eval, holds,
      Condition.expressesInversion, isContrary]
  | null | number value | same =>
    simp [condition, Condition.test, Condition.operandNames, Test.eval, holds,
      Condition.expressesInversion]
  | order operandType relation =>
    simp [condition, Condition.test, Condition.operandNames, Test.eval, holds,
      Condition.expressesInversion, isContrary, Sense.operandType, Comparator.nameFor,
      Comparator.suffix]

/-- The expression of a named assertion is true exactly if the spelled condition is as the polarity
demands. -/
lemma Sense.eval_expression (sense : Sense) (token : String) (polarity : Polarity)
    (settings : Settings) (world : World) :
    ((sense.assertion token polarity).expression settings).eval world =
      polarity.demands (sense.holds world settings.failureCondition) := by
  rw [Expression.eval_eq, Polarity.demands_eq]
  simp only [Assertion.expression, assertion, Assertion.make]
  rw [Sense.eval_test]
  cases hexpress : (sense.condition polarity.inverts).expressesInversion with
  | false =>
    simp only [reading, hexpress]
    cases sense.isContrary <;> simp
  | true => simp [reading, hexpress]

end AssertionHeader
