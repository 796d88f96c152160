import AssertionHeader.Comment
import AssertionHeader.Expression
import AssertionHeader.Ledger
import AssertionHeader.Name

/-!
# Macro blocks

A block is one macro as the header holds it: its documentation and its definition.  This module
writes the block of an assertion, of a comparator and of a name that spells no macro, and says what
the ledger has to record when each of them is written.
-/

namespace AssertionHeader

/-- A macro in the header. -/
structure Block where
  name : String
  /-- The documentation comment; it may be empty. -/
  doc : String
  text : String
  deriving DecidableEq, Repr

namespace Block

def render (block : Block) : String :=
  block.doc ++ block.text

end Block

/-! ## Assertions -/

namespace Assertion

/-- The documentation of an assertion.  The last parameter stands for the caller's own message. -/
def comment (assertion : Assertion) : Comment :=
  { paragraphs := [assertion.summary]
    params :=
      assertion.operands.zip (assertion.condition.operandDescriptions assertion.operandType) ++
        [("...", "optional message format and arguments")] }

/-- The definition of an assertion: it calls the report function with the outcome of the test, the
place in the source, the failure message and whatever the caller adds. -/
def definition (assertion : Assertion) (settings : Settings) : String :=
  Text.unlines
    ["#define " ++ assertion.name ++ "(" ++ ", ".intercalate assertion.operands ++ ", ...) \\",
      "    " ++ settings.reportFunction ++ "(" ++ (assertion.expression settings).text ++
        ", __FILE__, __LINE__, \\",
      "        " ++ assertion.message.literal ++ ", ## __VA_ARGS__, " ++ settings.sentinel ++ ")"]

def block (assertion : Assertion) (settings : Settings) : Block :=
  ⟨assertion.name, assertion.comment.text settings.wrapWidth, assertion.definition settings⟩

/-- What an assertion needs, before it is defined. -/
def needs (assertion : Assertion) (settings : Settings) : List LedgerEvent :=
  match assertion.condition with
  | .null _ => [.includeHeader settings.nullHeader]
  | .order _ => [.needBy (Comparator.nameFor assertion.operandType) assertion.name]
  | _ => []

def events (assertion : Assertion) (settings : Settings) : List LedgerEvent :=
  assertion.needs settings ++ [.define assertion.name]

end Assertion

/-! ## Comparators -/

namespace Comparator

/-- What a comparator's documentation opens with. -/
def paragraphs (comparator : Comparator) : List String :=
  let opening := "Compares two " ++ comparator.operandType ++ " values"
  match comparator.style with
  | .arithmetic => [opening ++ "."]
  | .lexical => [opening ++ " in lexical order."]
  | .bytewise =>
    [opening ++ " byte by byte.",
      "Byte-wise comparison is unsound for structures with padding, pointers or floating-point " ++
        "members; define " ++ comparator.name ++ " by hand for such types."]

/-- What the documentation says of the sign of a comparator's value. -/
def signLines (style : CompareStyle) : List String :=
  let subject := match style with
    | .bytewise => "the bytes of a are"
    | .arithmetic | .lexical => "a is"
  let object := match style with
    | .bytewise => "those of b"
    | .arithmetic | .lexical => "b"
  [">0 if " ++ subject ++ " greater than " ++ object ++ ",",
    " 0 if " ++ subject ++ " equal to " ++ object ++ ",",
    "<0 if " ++ subject ++ " less than " ++ object]

def comment (comparator : Comparator) : Comment :=
  { paragraphs := comparator.paragraphs
    params :=
      [("a", "the first " ++ comparator.operandType),
        ("b", "the second " ++ comparator.operandType)]
    returns := signLines comparator.style }

def definition (comparator : Comparator) : String :=
  Text.line ("#define " ++ comparator.name ++ "(a, b) " ++ comparator.body)

def block (comparator : Comparator) (settings : Settings) : Block :=
  ⟨comparator.name, comparator.comment.text settings.wrapWidth, comparator.definition⟩

/-- What a comparator needs, before it is defined: a library function declares a header. -/
def needs (comparator : Comparator) (settings : Settings) : List LedgerEvent :=
  match comparator.style with
  | .arithmetic => []
  | .lexical | .bytewise => [.includeHeader settings.stringHeader]

def events (comparator : Comparator) (settings : Settings) : List LedgerEvent :=
  comparator.needs settings ++ [.define comparator.name]

end Comparator

/-! ## Names that spell no macro -/

namespace Diagnostic

/-- What the compiler says of an unrecognized name, as a string literal. -/
def literal (token : String) : String :=
  Text.quote ("unrecognized assertion name: " ++ token)

/-- The block of an unrecognized name.  An identifier becomes a macro that does not compile where it
is used; any other text cannot name a macro, and is an error where it stands. -/
def block (token : String) : Block :=
  if Identifier.isIdentifier token.toList then
    { name := token
      doc := Text.line ("/* " ++ token ++ ": unrecognized assertion name */")
      text := Text.unlines
        ["#define " ++ token ++ "(...) \\", "    _Static_assert(0, " ++ literal token ++ ")"] }
  else
    { name := token, doc := "", text := Text.line ("#error " ++ literal token) }

def events (token : String) : List LedgerEvent :=
  [.define token]

end Diagnostic

/-! ## Decoded names -/

namespace Name

def block (name : Name) (settings : Settings) : Block :=
  match name with
  | assertion a => a.block settings
  | comparator c => c.block settings
  | unrecognized token => Diagnostic.block token

def events (name : Name) (settings : Settings) : List LedgerEvent :=
  match name with
  | assertion a => a.events settings
  | comparator c => c.events settings
  | unrecognized token => Diagnostic.events token

end Name

end AssertionHeader
