/-!
# UTF-8

Bytes are decoded one at a time.  A decoder is between characters, or inside a sequence of which it
knows how many bytes are still to come and which values the next one may have.  A byte that does not
fit closes the sequence as ill-formed and is decoded anew, so that each maximal ill-formed part
counts once.
-/

namespace AssertionHeader.Text.Utf8

inductive State where
  | between
  /-- Inside a sequence: `more` further bytes follow this one, whose value lies between `low` and
  `high`; `value` holds the bits so far. -/
  | inside (more low high value : Nat)
  deriving DecidableEq, Repr

/-- The state after a byte between characters, and the character or ill-formed part that it
completes. -/
def start (b : Nat) : List (Option Char) × State :=
  if b < 0x80 then ([some (Char.ofNat b)], .between)
  else if b < 0xC2 then ([none], .between)
  else if b < 0xE0 then ([], .inside 0 0x80 0xBF (b - 0xC0))
  else if b = 0xE0 then ([], .inside 1 0xA0 0xBF 0)
  else if b = 0xED then ([], .inside 1 0x80 0x9F 0xD)
  else if b < 0xF0 then ([], .inside 1 0x80 0xBF (b - 0xE0))
  else if b = 0xF0 then ([], .inside 2 0x90 0xBF 0)
  else if b < 0xF4 then ([], .inside 2 0x80 0xBF (b - 0xF0))
  else if b = 0xF4 then ([], .inside 2 0x80 0x8F 4)
  else ([none], .between)

/-- The state after a byte, and what the byte completes: a character, or `none` for an ill-formed
part. -/
def step (state : State) (b : Nat) : List (Option Char) × State :=
  match state with
  | .between => start b
  | .inside more low high value =>
    if low ≤ b ∧ b ≤ high then
      match more with
      | 0 => ([some (Char.ofNat (value * 64 + (b - 0x80)))], .between)
      | more + 1 => ([], .inside more 0x80 0xBF (value * 64 + (b - 0x80)))
    else
      (none :: (start b).1, (start b).2)

/-- The characters and ill-formed parts that bytes complete from a state on. -/
def decodeFrom : State → List UInt8 → List (Option Char)
  | .between, [] => []
  | .inside .., [] => [none]
  | state, b :: rest => (step state b.toNat).1 ++ decodeFrom (step state b.toNat).2 rest

/-- The characters that bytes encode, with `none` for each maximal ill-formed part. -/
def decode (bytes : List UInt8) : List (Option Char) :=
  decodeFrom .between bytes

/-- The character that stands for an ill-formed part. -/
def replacement : Char := '\ufffd'

/-- The text that bytes encode, with a replacement character for each ill-formed part. -/
def decodeLossy (bytes : List UInt8) : List Char :=
  (decode bytes).map (·.getD replacement)

/-- The text that bytes encode, if no part of them is ill-formed. -/
def decode? (bytes : List UInt8) : Option (List Char) :=
  (decode bytes).mapM id

end AssertionHeader.Text.Utf8
