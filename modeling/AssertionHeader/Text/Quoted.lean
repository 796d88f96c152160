/-!
# C string literals

A quoted text is a C string literal.  A double quote and a backslash are escaped by a backslash, a
line feed is written as a backslash and the letter `n`, and every other character stands for itself.
-/

namespace AssertionHeader.Text

/-- The spelling of one character inside a string literal. -/
def escapeChar : Char → List Char
  | '"' => ['\\', '"']
  | '\\' => ['\\', '\\']
  | '\n' => ['\\', 'n']
  | c => [c]

/-- The characters between the quotes of the literal for `text`. -/
def escape (text : List Char) : List Char :=
  text.flatMap escapeChar

def quote (text : String) : String :=
  "\"" ++ String.ofList (escape text.toList) ++ "\""

end AssertionHeader.Text
