import AssertionHeader.Block

/-!
# Headers

A header is the document that is written.  Inside the guard it holds, in this order, a note on the
macros that the user has to define, the include lines, the comparators and the assertions.
-/

namespace AssertionHeader

namespace Need

/-- The operand type of a needed macro that has the name of a comparator. -/
def comparatorType? (need : Need) : Option String :=
  ((Comparator.stripSuffix? need.name.toList).filter (!·.isEmpty)).map String.ofList

/-- What the note says of a needed macro.  A comparator is listed by the signature that it must have
and the call that is made; another macro by its name. -/
def adviceLines (need : Need) : List String :=
  let users := ", ".intercalate need.users
  match need.comparatorType? with
  | some operandType =>
    [" *   int " ++ need.name ++ "(" ++ operandType ++ " a, " ++ operandType ++ " b);",
      " *       called as " ++ need.name ++ "(" ++ operandType ++ "1," ++ operandType ++ "2)" ++
        (if users.isEmpty then "" else " by " ++ users)]
  | none =>
    (" *   " ++ need.name) :: (if users.isEmpty then [] else [" *       required by " ++ users])

end Need

structure Header where
  guard : String
  /-- The macros that the user has to define. -/
  missing : List Need
  includes : List String
  comparators : List Block
  assertions : List Block
  deriving DecidableEq, Repr

namespace Header

def adviceLines (missing : List Need) : List String :=
  ["/*", " * Unresolved dependencies; define these before using the macros below:", " *"] ++
    missing.flatMap Need.adviceLines ++ [" */"]

def advice (missing : List Need) : String :=
  Text.unlines (adviceLines missing)

/-- The note and an empty line; nothing if there is no macro to note. -/
def adviceSection (missing : List Need) : String :=
  if missing.isEmpty then "" else Text.line (advice missing)

def includeSection (includes : List String) : String :=
  Text.unlines (includes.map ("#include <" ++ · ++ ">") ++ [""])

/-- The blocks, each followed by an empty line. -/
def blockSection (blocks : List Block) : String :=
  Text.unlines (blocks.map Block.render)

def render (header : Header) : String :=
  Text.unlines ["#ifndef " ++ header.guard, "#define " ++ header.guard, ""] ++
    adviceSection header.missing ++ includeSection header.includes ++
    blockSection header.comparators ++ blockSection header.assertions ++
    Text.line ("#endif /* " ++ header.guard ++ " */")

/-- The header of a ledger and the blocks written under it. -/
def ofLedger (guard : String) (ledger : Ledger) (comparators assertions : List Block) : Header :=
  { guard, comparators, assertions, missing := ledger.unresolved, includes := ledger.includes }

end Header

end AssertionHeader
