import AssertionHeader.Message
import AssertionHeader.Relation

/-!
# Statements about operands

Documentation and failure messages say in English what is true of the operands.  What is said is a
`Statement`; `Statement.message` words it.
-/

namespace AssertionHeader

/-- What a sentence says of its operands.  The flag `holds` is false where the sentence denies. -/
inductive Statement where
  | truth (operand : String) (holds : Bool)
  | failure (operand : String) (holds : Bool)
  | null (operand : String) (holds : Bool)
  | number (operand : String) (value : Nat) (holds : Bool)
  /-- The first operand stands in the relation to the second. -/
  | order (first : String) (relation : Relation) (second : String)
  | sameness (first second : String) (holds : Bool)
  deriving DecidableEq, Repr

namespace Statement

def message : Statement → Message
  | truth operand holds => [.operand operand, .text (if holds then " is true" else " is false")]
  | failure operand holds =>
    [.operand operand, .text (if holds then " failed" else " did not fail")]
  | null operand holds => [.operand operand, .text (if holds then " is NULL" else " is not NULL")]
  | number operand value holds =>
    [.operand operand, .text ((if holds then " is " else " is not ") ++ toString value)]
  | order first relation second =>
    [.operand first, .text (" is " ++ relation.phrase ++ " "), .operand second]
  | sameness first second holds =>
    [.operand first, .text " and ", .operand second,
      .text (if holds then " are the same" else " are not the same")]

end Statement

end AssertionHeader
