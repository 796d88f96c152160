import AssertionHeader.Text.Ligature

/-!
# Display width

The number of columns that text takes in a fixed-width font.  A text is measured from its end to its
start, character by character: what was read last, an `Ahead`, decides with the next character how
many columns come to the sum.  Most characters take their own `columns`; those of a ligature or of
an emoji spelled with several characters share theirs, so some add nothing and a few take a column
back.  A line feed takes none.

A blank shares nothing with its neighbours, so the widths of the texts at its sides add up; the laws
of widths stand in `Width.Lemmas`.
-/

namespace AssertionHeader.Text

/-- What the characters read so far, which follow the next one, begin with. -/
inductive Tail where
  /-- Nothing that the next character shares columns with. -/
  | free
  | lineFeed
  | ligature (part : Ligature)
  | emoji
  | skinTone
  | letters (count : Nat)
  /-- A joiner and an emoji. -/
  | joined
  /-- A keycap before a joiner and an emoji. -/
  | joinedKeycap
  /-- Regional indicators before a joiner and an emoji. -/
  | joinedLetters (count : Nat)
  /-- Tag letters and the cancel tag, before a joiner and an emoji. -/
  | tagLetters (count : Nat)
  /-- Tag digits before tag letters as above. -/
  | tagDigits (count : Nat)
  deriving DecidableEq, Repr

/-- A style of drawing that a selector asks for. -/
inductive Style where
  | text
  | emoji
  deriving DecidableEq, Repr

/-- What follows the next character: the tail, and the style asked for by a selector before it. -/
structure Ahead where
  tail : Tail := .free
  style : Option Style := none
  deriving DecidableEq, Repr

namespace Tail

/-- The tail if it is part of a ligature; a selector cuts others off. -/
def ligatureOnly : Tail → Tail
  | ligature part => ligature part
  | _ => free

/-- Whether the tail goes on after a joiner, or after a keycap and a joiner, with an emoji. -/
def isJoined : Tail → Bool
  | joined | joinedKeycap => true
  | _ => false

/-- The tail that `c` starts by itself. -/
def ofChar (c : Char) : Tail :=
  if regionalIndicators.contains c then letters 1
  else if skinTones.contains c then skinTone
  else if CharRange.tableContains emojiByDefault c then emoji
  else match Ligature.ofChar? c with
    | some part => ligature part
    | none => free

/-- What `c` makes of the tail: the columns that are added and the new tail.  There is no value if
the two share no columns.

Two regional indicators are one flag.  Before a joiner and an emoji an even number of them leaves a
flag that the emoji takes in, so the columns of the second go back to the sum when a third is read
and the flags are paired anew. -/
def extend? (c : Char) : Tail → Option (Int × Tail)
  | free | lineFeed | joinedKeycap => none
  | ligature part =>
    match part.extend? c with
    | some (added, some longer) => some (added, ligature longer)
    | some (added, none) => some (added, free)
    | none => none
  | emoji => if c = joiner then some (0, joined) else none
  | skinTone =>
    if c = joiner then some (0, joined)
    else if CharRange.tableContains skinToneBases c then some (0, emoji)
    else none
  | letters count =>
    if c = joiner ∧ 2 ≤ count then some (0, joined)
    else if regionalIndicators.contains c then some (1, letters (count + 1))
    else none
  | joined =>
    if c = keycap then some (0, joinedKeycap)
    else if regionalIndicators.contains c then some (1, joinedLetters 1)
    else if skinTones.contains c then some (0, skinTone)
    else if c = cancelTag then some (0, tagLetters 0)
    else if CharRange.tableContains emojiByDefault c then some (0, emoji)
    else none
  | joinedLetters count =>
    if c = joiner ∧ 2 ≤ count then some (0, joined)
    else if regionalIndicators.contains c then
      some (if count % 2 = 1 then -1 else 3, joinedLetters (count + 1))
    else none
  | tagLetters count =>
    if Text.tagLetters.contains c ∧ count < 6 then some (0, tagLetters (count + 1))
    else if Text.tagDigits.contains c ∧ count ≤ 4 then some (0, tagDigits 1)
    else if c = blackFlag ∧ 3 ≤ count then some (0, emoji)
    else none
  | tagDigits count =>
    if Text.tagDigits.contains c ∧ count < 3 then some (0, tagDigits (count + 1))
    else if c = blackFlag ∧ count = 3 then some (0, emoji)
    else none

/-- What `c` adds before a tail that no selector stands before, and what it leaves ahead of the
character before it. -/
def advance (c : Char) (tail : Tail) : Int × Ahead :=
  if c.toNat ≤ 0xA0 then
    if c = '\n' then (0, { tail := lineFeed })
    else if c = '\r' ∧ tail = lineFeed then (0, {})
    else (1, {})
  else if c = emojiSelector then
    (0, { tail := if tail.isJoined then tail else tail.ligatureOnly, style := some .emoji })
  else if c = textSelector then
    (0, { tail := tail.ligatureOnly, style := some .text })
  else match tail.extend? c with
    | some (added, longer) => (added, { tail := longer })
    | none => (columns c, { tail := ofChar c })

end Tail

namespace Ahead

/-- What `c` adds to the columns of the text ahead, and what it leaves ahead of the character before
it.  A character whose style is selected shares no column with what follows, unless that is a joined
emoji. -/
def advance (c : Char) (next : Ahead) : Int × Ahead :=
  match next.style with
  | some .emoji =>
    if takesEmojiStyle c then (if next.tail.isJoined then 0 else 2, { tail := .emoji })
    else next.tail.ligatureOnly.advance c
  | some .text => if takesTextStyle c then (1, {}) else next.tail.advance c
  | none => next.tail.advance c

end Ahead

/-- The columns of a text together with those counted already after it, and what is ahead of the
character before it. -/
def measureFrom (done : Int × Ahead) (text : List Char) : Int × Ahead :=
  text.foldr (fun c done => (done.1 + (done.2.advance c).1, (done.2.advance c).2)) done

/-- The number of columns that a text takes. -/
def width (text : List Char) : Nat :=
  (measureFrom (0, {}) text).1.toNat

end AssertionHeader.Text
