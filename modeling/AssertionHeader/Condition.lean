import AssertionHeader.Statement

/-!
# Conditions

A condition is the kind of test that a macro name asks for.  It fixes the operands of the macro, how
the documentation describes them, and what the macro states about them.
-/

namespace AssertionHeader

/-- The kind of test that a macro makes. -/
inductive Condition where
  | boolean
  /-- An operation failed, by its status. -/
  | status
  /-- An expression is true, where the name says `True` or `False`. -/
  | truth
  /-- A pointer is, or is not, `NULL`. -/
  | null (equality : Equality)
  /-- An expression has, or has not, a value below `2 ^ 64`. -/
  | literal (value : Nat) (equality : Equality)
  /-- Two operands are ordered by the comparator of their type. -/
  | order (relation : Relation)
  /-- Two expressions are, or are not, the same. -/
  | identity (equality : Equality)
  deriving DecidableEq, Repr

namespace Condition

/-- The names of the operands.  Those of an order are made from the operand type. -/
def operandNames (condition : Condition) (operandType : String) : List String :=
  match condition with
  | order _ => [operandType ++ "1", operandType ++ "2"]
  | identity _ => ["arg1", "arg2"]
  | boolean | status | truth | null _ | literal _ _ => ["expr"]

def operandDescriptions (condition : Condition) (operandType : String) : List String :=
  match condition with
  | boolean | truth => ["the condition to test"]
  | status => ["the status-returning operation to test"]
  | null _ => ["the pointer to test"]
  | literal _ _ => ["the value to test"]
  | order _ =>
    ["the first " ++ operandType ++ " operand", "the second " ++ operandType ++ " operand"]
  | identity _ => ["the first operand", "the second operand"]

/-- Whether an inversion is expressed by the equality of the condition rather than apart from it. -/
def expressesInversion : Condition → Bool
  | null _ | literal _ _ | identity _ => true
  | boolean | status | truth | order _ => false

/-- What the condition states of its operands, or the contrary where `holds` is false.  An operand
that is not given has the empty name.

"Not equal" states the same as "equal" here: its negation is kept apart from the condition. -/
def statement (condition : Condition) (operands : List String) (holds : Bool) : Statement :=
  let first := operands[0]?.getD ""
  let second := operands[1]?.getD ""
  match condition with
  | boolean | truth => .truth first holds
  | status => .failure first holds
  | null equality => .null first (equality.isEqual == holds)
  | literal value equality => .number first value (equality.isEqual == holds)
  | order relation =>
    .order first (if holds then relation.base else relation.base.negated) second
  | identity equality => .sameness first second (equality.isEqual == holds)

end Condition

end AssertionHeader
