import AssertionHeader.Assertion
import AssertionHeader.Settings

/-!
# C expressions

The test that an assertion macro makes, as a C expression.  Every operand is written in parentheses,
so that the caller's argument stays one operand.
-/

namespace AssertionHeader

/-- A test in C. -/
inductive Test where
  | truth (operand : String)
  | failure (operand condition : String)
  | null (operand : String) (equality : Equality)
  | literal (operand : String) (equality : Equality) (value : Nat)
  /-- A comparison of a comparator's result with zero. -/
  | order (comparator first second : String) (relation : Relation)
  | identity (first : String) (equality : Equality) (second : String)
  deriving DecidableEq, Repr

namespace Test

def text : Test → String
  | truth operand => "(" ++ operand ++ ")"
  | failure operand condition => "((" ++ operand ++ ") " ++ condition ++ ")"
  | null operand equality => "(" ++ operand ++ ") " ++ equality.symbol ++ " NULL"
  | literal operand equality value =>
    "(" ++ operand ++ ") " ++ equality.symbol ++ " " ++ toString value
  | order comparator first second relation =>
    "(" ++ comparator ++ "(" ++ first ++ "," ++ second ++ ") " ++ relation.symbol ++ " 0)"
  | identity first equality second =>
    "(" ++ first ++ ") " ++ equality.symbol ++ " (" ++ second ++ ")"

end Test

structure Expression where
  negated : Bool
  test : Test
  deriving DecidableEq, Repr

namespace Expression

def text (expression : Expression) : String :=
  if expression.negated then "!" ++ expression.test.text else expression.test.text

end Expression

/-- The test of a condition on the given operands.  An operand that is not given has the empty
name. -/
def Condition.test (condition : Condition) (settings : Settings) (operandType : String)
    (operands : List String) : Test :=
  let first := operands[0]?.getD ""
  let second := operands[1]?.getD ""
  match condition with
  | .boolean | .truth => .truth first
  | .status => .failure first settings.failureCondition
  | .null equality => .null first equality
  | .literal value equality => .literal first equality value
  | .order relation => .order (Comparator.nameFor operandType) first second relation.base
  | .identity equality => .identity first equality second

/-- The expression that is true exactly when the assertion passes. -/
def Assertion.expression (assertion : Assertion) (settings : Settings) : Expression :=
  ⟨assertion.inverted,
    assertion.condition.test settings assertion.operandType assertion.operands⟩

end AssertionHeader
