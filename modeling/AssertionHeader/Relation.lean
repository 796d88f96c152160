/-!
# Relations between operands

`Relation` has the six order relations that a name can end in; `Equality` has the two that an
inversion can be folded into.
-/

namespace AssertionHeader

/-- An order relation between two operands. -/
inductive Relation where
  | lt
  | le
  | eq
  | ge
  | gt
  | ne
  deriving DecidableEq, Repr

namespace Relation

/-- The endings of a name that spell a relation.  `Equal` and `equal` are long forms of `EQ`. -/
def endings : List (String × Relation) :=
  [("Equal", eq), ("equal", eq), ("LT", lt), ("LE", le), ("EQ", eq), ("GE", ge), ("GT", gt),
    ("NE", ne)]

/-- What stands before the first ending of the table that a text has, and the relation that the
ending spells. -/
def splitBy? (table : List (String × Relation)) (text : List Char) :
    Option (List Char × Relation) :=
  table.findSome? fun (ending, relation) =>
    (ending.toList.isSuffixOf? text).map fun front => (front, relation)

/-- What stands before the relation that a text ends in, and that relation. -/
def splitEnding? (text : List Char) : Option (List Char × Relation) :=
  splitBy? endings text

/-- The relation that is written in C: "not equal" is a negated "equal". -/
def base : Relation → Relation
  | ne => eq
  | relation => relation

/-- Whether the relation is the negation of its base. -/
def isNegated (relation : Relation) : Bool :=
  relation == ne

/-- The relation that holds exactly when this one does not. -/
def negated : Relation → Relation
  | lt => ge
  | le => gt
  | eq => ne
  | ge => lt
  | gt => le
  | ne => eq

def symbol : Relation → String
  | lt => "<"
  | le => "<="
  | eq => "=="
  | ge => ">="
  | gt => ">"
  | ne => "!="

/-- The relation in English, to stand after "is". -/
def phrase : Relation → String
  | lt => "less than"
  | le => "less than or equal to"
  | eq => "equal to"
  | ge => "greater than or equal to"
  | gt => "greater than"
  | ne => "not equal to"

end Relation

/-- Whether two values must be equal or must differ. -/
inductive Equality where
  | equal
  | notEqual
  deriving DecidableEq, Repr

namespace Equality

/-- Equality, inverted on demand. -/
def ofInvert (invert : Bool) : Equality :=
  if invert then notEqual else equal

def isEqual : Equality → Bool
  | equal => true
  | notEqual => false

def symbol : Equality → String
  | equal => "=="
  | notEqual => "!="

end Equality

end AssertionHeader
