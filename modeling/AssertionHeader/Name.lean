import AssertionHeader.Assertion
import AssertionHeader.Numeral

/-!
# Macro names

A macro name spells the macro.  The name of an assertion is a polarity, at most one underscore, and
a condition; the name of a comparator is its operand type and an ending.  `Name.decode` reads a
name.  A name that opens with a polarity is never a comparator's.

Conditions are read by a list of rules, each for one kind of condition; the first rule that accepts
a spelling decides.
-/

namespace AssertionHeader

/-- What the spelling of a condition says, in a name whose polarity may invert it. -/
structure Reading where
  condition : Condition
  /-- Whether the condition is negated and does not express that itself. -/
  inverted : Bool
  operandType : String
  deriving DecidableEq, Repr

namespace Reading

/-- The operand type of a name that gives none. -/
def defaultType : String := "Number"

def plain (condition : Condition) (inverted : Bool) : Reading :=
  ⟨condition, inverted, defaultType⟩

/-- A rule reads the spelling of one kind of condition, given whether the polarity inverts. -/
abbrev Rule := (spelling : List Char) → (inverts : Bool) → Option Reading

/-- The empty spelling tests an expression. -/
def booleanRule : Rule := fun spelling inverts =>
  if spelling.isEmpty then some (plain .boolean inverts) else none

def failureWords : List String := ["Error", "error", "Failure", "failure"]

/-- The spellings of an operation that did not fail. -/
def successWords : List String := ["Success", "success"]

/-- The words for failure and for success test a status. -/
def statusRule : Rule := fun spelling inverts =>
  if String.ofList spelling ∈ failureWords then some (plain .status inverts)
  else if String.ofList spelling ∈ successWords then some (plain .status !inverts)
  else none

def trueWords : List String := ["True", "true"]

def falseWords : List String := ["False", "false"]

/-- The words for the truth values test an expression. -/
def truthRule : Rule := fun spelling inverts =>
  if String.ofList spelling ∈ trueWords then some (plain .truth inverts)
  else if String.ofList spelling ∈ falseWords then some (plain .truth !inverts)
  else none

def nullRule : Rule := fun spelling inverts =>
  if String.ofList spelling = "NULL" then some (plain (.null (.ofInvert inverts)) false) else none

def literalRule : Rule := fun spelling inverts =>
  (Numeral.value? spelling).map fun value => plain (.literal value (.ofInvert inverts)) false

def identityWords : List String := ["Same", "same"]

/-- The words for identity test two expressions. -/
def identityRule : Rule := fun spelling inverts =>
  if String.ofList spelling ∈ identityWords then some (plain (.identity (.ofInvert inverts)) false)
  else none

/-- The operand type that stands before a relation: an identifier, or the default type for none. -/
def operandType? (front : List Char) : Option String :=
  if front.isEmpty then some defaultType
  else if Identifier.isIdentifier front then some (String.ofList front)
  else none

/-- A relation, with the operand type before it, orders two operands. -/
def orderRule : Rule := fun spelling inverts =>
  (Relation.splitEnding? spelling).bind fun (front, relation) =>
    (operandType? front).map fun operandType =>
      ⟨.order relation, inverts != relation.isNegated, operandType⟩

/-- The rules, the first of which to accept a spelling decides. -/
def rules : List Rule :=
  [booleanRule, statusRule, truthRule, nullRule, literalRule, identityRule, orderRule]

/-- What the first of the rules that accepts a text reads in it. -/
def byRules? (rules : List Rule) (spelling : List Char) (inverts : Bool) : Option Reading :=
  rules.findSome? fun rule => rule spelling inverts

def ofSpelling? (spelling : List Char) (inverts : Bool) : Option Reading :=
  byRules? rules spelling inverts

end Reading

inductive Name where
  | assertion (assertion : Assertion)
  | comparator (comparator : Comparator)
  /-- No macro is spelled; the text is kept. -/
  | unrecognized (token : String)
  deriving DecidableEq, Repr

namespace Name

def decode (token : String) : Name :=
  match Polarity.split? token.toList with
  | some (polarity, spelling) =>
    match Reading.ofSpelling? spelling polarity.inverts with
    | some reading =>
      assertion (.make token polarity reading.inverted reading.condition reading.operandType)
    | none => unrecognized token
  | none =>
    match Comparator.splitType? token.toList with
    | some operandType => comparator (.ofType (String.ofList operandType))
    | none => unrecognized token

/-- The name of the macro, or the text that is none. -/
def text : Name → String
  | assertion a => a.name
  | comparator c => c.name
  | unrecognized token => token

/-- Whether a text has the outward form of a macro name, so that it is worth reading. -/
def isCandidate (token : List Char) : Bool :=
  "Assert".toList.isPrefixOf token || "Fail".toList.isPrefixOf token ||
    Comparator.suffix.toList.isSuffixOf token

end Name

end AssertionHeader
