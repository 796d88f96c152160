import AssertionHeader.Comparator
import AssertionHeader.Condition
import AssertionHeader.Polarity

/-!
# Assertions

An assertion is a macro that tests a condition on its operands and reports if the test fails.  This
module holds what is known of an assertion from its name alone: its operands, its default failure
message and its one-sentence summary.
-/

namespace AssertionHeader

structure Assertion where
  name : String
  /-- What the name opens with. -/
  polarity : Polarity
  /-- Whether the condition is negated.  An inversion that the condition expresses does not count.
  -/
  inverted : Bool
  condition : Condition
  /-- The type of the operands; it matters to an order only. -/
  operandType : String
  operands : List String
  /-- What the macro reports, unless the caller says more. -/
  message : Message
  /-- One sentence of documentation. -/
  summary : String
  deriving DecidableEq, Repr

namespace Assertion

/-- What the operands are when an assertion passes, or when it does not. -/
def statementFor (condition : Condition) (inverted : Bool) (operands : List String)
    (passes : Bool) : Statement :=
  condition.statement operands (passes != inverted)

/-- The failure message of an assertion.  A plain expression has no wording of its own, so its
assertion is said to have failed. -/
def messageFor (condition : Condition) (inverted : Bool) (operands : List String) : Message :=
  match condition with
  | .boolean =>
    [.text (if inverted then "Negative assertion " else "Assertion "),
      .operand (operands[0]?.getD ""), .text " failed"]
  | _ => (statementFor condition inverted operands false).message

/-- The summary of an assertion.  It speaks of the passing case, except for `Fail_if`, which names
what it fails on. -/
def summaryFor (polarity : Polarity) (statement : Bool → Statement) : String :=
  match polarity with
  | .assert | .assertNot => "Asserts that " ++ (statement true).message.plain ++ "."
  | .failIf => "Fails if " ++ (statement false).message.plain ++ "."
  | .failUnless => "Fails unless " ++ (statement true).message.plain ++ "."

/-- The assertion with the given name and condition; its operands and texts follow from these. -/
def make (name : String) (polarity : Polarity) (inverted : Bool) (condition : Condition)
    (operandType : String) : Assertion :=
  let apart := inverted && !condition.expressesInversion
  let operands := condition.operandNames operandType
  { name, polarity, condition, operandType, operands
    inverted := apart
    message := messageFor condition apart operands
    summary := summaryFor polarity (statementFor condition apart operands) }

/-- What the assertion's operands are when it passes, or when it does not. -/
def statement (assertion : Assertion) (passes : Bool) : Statement :=
  statementFor assertion.condition assertion.inverted assertion.operands passes

/-- The name of the comparator that the assertion calls. -/
def comparator? (assertion : Assertion) : Option String :=
  match assertion.condition with
  | .order _ => some (Comparator.nameFor assertion.operandType)
  | _ => none

end Assertion

end AssertionHeader
