/-!
# Numerals

A numeral is an unsigned C integer constant without a suffix: `0x` opens a hexadecimal one, `0b` a
binary one, a further leading zero an octal one, and every other one is decimal.  A numeral denotes
a value below `2 ^ 64`; a digit string with a larger value is not a numeral.
-/

namespace AssertionHeader.Numeral

/-- The first value that no numeral denotes. -/
def limit : Nat := Nat.pow 2 64

/-- The value of a digit in bases up to sixteen, in either case. -/
def digit? (c : Char) : Option Nat :=
  if '0' ≤ c ∧ c ≤ '9' then some (c.toNat - '0'.toNat)
  else if 'a' ≤ c ∧ c ≤ 'f' then some (c.toNat - 'a'.toNat + 10)
  else if 'A' ≤ c ∧ c ≤ 'F' then some (c.toNat - 'A'.toNat + 10)
  else none

def digitBelow? (base : Nat) (c : Char) : Option Nat :=
  (digit? c).filter (· < base)

/-- The number that `digits` continue after the number `value`. -/
def continueDigits? (base : Nat) (value : Nat) : List Char → Option Nat
  | [] => some value
  | c :: rest => (digitBelow? base c).bind fun d => continueDigits? base (base * value + d) rest

/-- The number that one or more digits of the given base denote. -/
def ofDigits? (base : Nat) : List Char → Option Nat
  | [] => none
  | digits => continueDigits? base 0 digits

/-- The base that a numeral is written in, and its digits. -/
def splitBase : List Char → Nat × List Char
  | '0' :: 'x' :: digits => (16, digits)
  | '0' :: 'b' :: digits => (2, digits)
  | '0' :: d :: digits => (8, d :: digits)
  | digits => (10, digits)

/-- The value of a numeral; `none` if the text is not one. -/
def value? (text : List Char) : Option Nat :=
  let (base, digits) := splitBase text
  (ofDigits? base digits).filter (· < limit)

end AssertionHeader.Numeral
