/-!
# Polarity

A macro name opens with one of four spellings, which say whether the macro reports when its
condition fails or when it holds.  The spellings are `Assert`, `Assert_not`, `Fail_if` and
`Fail_unless`.
-/

namespace AssertionHeader

/-- The sense that a macro name opens with. -/
inductive Polarity where
  /-- The condition must hold: `Assert`. -/
  | assert
  /-- The condition must not hold: `Assert_not`. -/
  | assertNot
  /-- The condition must not hold: `Fail_if`. -/
  | failIf
  /-- The condition must hold: `Fail_unless`. -/
  | failUnless
  deriving DecidableEq, Repr

namespace Polarity

/-- All polarities.  One whose spelling extends another's stands before it. -/
def all : List Polarity :=
  [failUnless, failIf, assertNot, assert]

/-- How a name with this polarity opens. -/
def spelling : Polarity → String
  | assert => "Assert"
  | assertNot => "Assert_not"
  | failIf => "Fail_if"
  | failUnless => "Fail_unless"

def inverts : Polarity → Bool
  | assert => false
  | assertNot => true
  | failIf => true
  | failUnless => false

/-- One underscore directly after the polarity is a separator and no part of the condition. -/
def dropSeparator : List Char → List Char
  | '_' :: rest => rest
  | rest => rest

/-- The polarity of a name and the spelling of its condition. -/
def split? (token : List Char) : Option (Polarity × List Char) :=
  all.findSome? fun polarity =>
    (polarity.spelling.toList.isPrefixOf? token).map fun rest => (polarity, dropSeparator rest)

end Polarity

end AssertionHeader
