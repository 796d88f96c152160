import AssertionHeader.Identifier

/-!
# Comparators

A comparator is a macro that orders two values of one type: it yields a negative number, zero or a
positive number.  The comparator of the type `T` has the name `T_compare`.
-/

namespace AssertionHeader

/-- How a comparator orders its operands. -/
inductive CompareStyle where
  | arithmetic
  /-- By the order of C strings. -/
  | lexical
  /-- By the bytes that they are stored in. -/
  | bytewise
  deriving DecidableEq, Repr

structure Comparator where
  operandType : String
  style : CompareStyle
  deriving DecidableEq, Repr

namespace Comparator

/-- What the name of a comparator ends in. -/
def suffix : String := "_compare"

def nameFor (operandType : String) : String :=
  operandType ++ suffix

/-- What stands before the ending of a comparator's name, whatever it is. -/
def stripSuffix? (name : List Char) : Option (List Char) :=
  suffix.toList.isSuffixOf? name

/-- The operand type that a comparator's name spells.  It is an identifier. -/
def splitType? (name : List Char) : Option (List Char) :=
  (stripSuffix? name).filter Identifier.isIdentifier

/-- The style of the comparator of a type.  Numbers and strings have styles of their own. -/
def styleFor (operandType : String) : CompareStyle :=
  if operandType = "Number" then .arithmetic
  else if operandType = "String" then .lexical
  else .bytewise

def ofType (operandType : String) : Comparator :=
  ⟨operandType, styleFor operandType⟩

def name (comparator : Comparator) : String :=
  nameFor comparator.operandType

/-- What the comparator expands to, over the parameters `a` and `b`. -/
def body (comparator : Comparator) : String :=
  match comparator.style with
  | .arithmetic => "((a) - (b))"
  | .lexical => "strcmp((a), (b))"
  | .bytewise => "memcmp(&(a), &(b), sizeof(" ++ comparator.operandType ++ "))"

end Comparator

end AssertionHeader
