import AssertionHeader.Text.Columns
import AssertionHeader.Text.Emoji

/-!
# Ligatures

In some scripts, neighbouring letters are drawn as one shape that takes fewer columns than the
letters apart.  Text is measured from its end, so a ligature is met at its last letter: a
`Ligature` is what a character offers to those before it, and `Ligature.extend?` says what one of
them makes of it.
-/

namespace AssertionHeader.Text

/-- The right part of a ligature, up to its leftmost character read so far.  Some ligatures need a
zero-width joiner; `joined` says whether it has been read. -/
inductive Ligature where
  /-- An Arabic alef, which a lam before it takes in. -/
  | alef
  /-- A Hebrew lamed, which takes in a joined alef. -/
  | lamed (joined : Bool)
  /-- A Buginese ya, which takes in a joined vowel sign i with its letter. -/
  | ya (joined : Bool)
  /-- A Buginese ya and the vowel sign i that is joined to it. -/
  | vowelYa
  /-- A Tifinagh consonant, which takes in a consonant before a joiner of either kind. -/
  | tifinagh (joined : Bool)
  /-- A Tifinagh consonant and the consonant joiner before it. -/
  | tifinaghJoined
  /-- A Lisu tone that combines with the tone before it. -/
  | lisuTone
  /-- An Old Turkic letter i, which takes in a joined letter orkhon ec. -/
  | oldTurkicI (joined : Bool)
  /-- A Khmer letter, which the sign coeng before it sets below the line. -/
  | khmerLetter
  deriving DecidableEq, Repr

namespace Ligature

/-- The Arabic letters that are drawn on the skeleton of alef. -/
def alefs : List CharRange :=
  [⟨0x622, 0x623⟩, ⟨0x625, 0x625⟩, ⟨0x627, 0x627⟩, ⟨0x671, 0x673⟩, ⟨0x675, 0x675⟩, ⟨0x773, 0x774⟩,
    ⟨0x870, 0x882⟩]

/-- The Arabic letters that are drawn on the skeleton of lam. -/
def lams : List CharRange :=
  [⟨0x644, 0x644⟩, ⟨0x6B5, 0x6B8⟩, ⟨0x76A, 0x76A⟩, ⟨0x8A6, 0x8A6⟩, ⟨0x8C7, 0x8C7⟩]

/-- The characters without a column that part an Arabic letter from the next; all others are
passed over when letters are joined. -/
def arabicBreaks : List CharRange :=
  [⟨0x605, 0x605⟩, ⟨0x890, 0x891⟩, ⟨0x8E2, 0x8E2⟩, ⟨0x9BE, 0x9BE⟩, ⟨0x9D7, 0x9D7⟩, ⟨0xB3E, 0xB3E⟩,
    ⟨0xB57, 0xB57⟩, ⟨0xBBE, 0xBBE⟩, ⟨0xBD7, 0xBD7⟩, ⟨0xCC0, 0xCC0⟩, ⟨0xCC2, 0xCC2⟩, ⟨0xCC7, 0xCC8⟩,
    ⟨0xCCA, 0xCCB⟩, ⟨0xCD5, 0xCD6⟩, ⟨0xD3E, 0xD3E⟩, ⟨0xD4E, 0xD4E⟩, ⟨0xD57, 0xD57⟩, ⟨0xDCF, 0xDCF⟩,
    ⟨0xDDF, 0xDDF⟩, ⟨0x1160, 0x11FF⟩, ⟨0x180E, 0x180E⟩, ⟨0x1B35, 0x1B35⟩, ⟨0x1B3B, 0x1B3B⟩,
    ⟨0x1B3D, 0x1B3D⟩, ⟨0x1B43, 0x1B43⟩, ⟨0x200C, 0x200D⟩, ⟨0x2065, 0x2069⟩, ⟨0x302E, 0x302F⟩,
    ⟨0x3164, 0x3164⟩, ⟨0xA8FA, 0xA8FA⟩, ⟨0xD7B0, 0xD7C6⟩, ⟨0xD7CB, 0xD7FB⟩, ⟨0xFF9E, 0xFFA0⟩,
    ⟨0xFFF0, 0xFFF8⟩, ⟨0x111C2, 0x111C3⟩, ⟨0x1133E, 0x1133E⟩, ⟨0x11357, 0x11357⟩,
    ⟨0x114B0, 0x114B0⟩, ⟨0x114BD, 0x114BD⟩, ⟨0x115AF, 0x115AF⟩, ⟨0x11930, 0x11930⟩,
    ⟨0x1193F, 0x1193F⟩, ⟨0x11941, 0x11941⟩, ⟨0x11A3A, 0x11A3A⟩, ⟨0x11A84, 0x11A89⟩,
    ⟨0x11D46, 0x11D46⟩, ⟨0x11F02, 0x11F02⟩, ⟨0x1D165, 0x1D165⟩, ⟨0x1D16E, 0x1D172⟩,
    ⟨0xE0000, 0xE0000⟩, ⟨0xE0002, 0xE001F⟩, ⟨0xE0080, 0xE00FF⟩, ⟨0xE01F0, 0xE0FFF⟩]

/-- The Khmer letters that have a form below the line. -/
def khmerLetters : List CharRange :=
  [⟨0x1780, 0x1782⟩, ⟨0x1784, 0x1787⟩, ⟨0x1789, 0x178C⟩, ⟨0x178E, 0x1793⟩, ⟨0x1795, 0x1798⟩,
    ⟨0x179B, 0x179D⟩, ⟨0x17A0, 0x17A0⟩, ⟨0x17A2, 0x17A2⟩, ⟨0x17A7, 0x17A7⟩, ⟨0x17AB, 0x17AC⟩,
    ⟨0x17AF, 0x17AF⟩]

def tifinaghConsonants : List CharRange :=
  [⟨0x2D31, 0x2D65⟩, ⟨0x2D6F, 0x2D6F⟩]

/-- The marks that are ignored in display, variation selectors above all; except beside an Arabic
letter they leave a ligature whole. -/
def ignoredMarks : List CharRange :=
  [⟨0x34F, 0x34F⟩, ⟨0x17B4, 0x17B5⟩, ⟨0x180B, 0x180D⟩, ⟨0x180F, 0x180F⟩, ⟨0xFE00, 0xFE0F⟩,
    ⟨0xE0100, 0xE01EF⟩]

def consonantJoiner : Char := '\u2d7f'

def coeng : Char := '\u17d2'

def vowelSignI : Char := '\u1a17'

def bugineseA : Char := '\u1a15'

def hebrewAlef : Char := '\u05d0'

def orkhonEc : Char := Char.ofNat 0x10C32

/-- The Lisu tones that combine with a tone after them. -/
def firstTones : CharRange := ⟨0xA4F8, 0xA4FB⟩

/-- The Lisu tones that combine with a tone before them. -/
def lastTones : CharRange := ⟨0xA4FC, 0xA4FD⟩

/-- What `c` offers to the characters before it, if a ligature can end with it. -/
def ofChar? (c : Char) : Option Ligature :=
  if CharRange.tableContains alefs c then some alef
  else if c = '\u05dc' then some (lamed false)
  else if c = '\u1a10' then some (ya false)
  else if CharRange.tableContains tifinaghConsonants c then some (tifinagh false)
  else if lastTones.contains c then some lisuTone
  else if c = Char.ofNat 0x10C03 then some (oldTurkicI false)
  else if CharRange.tableContains khmerLetters c then some khmerLetter
  else none

/-- The part with a zero-width joiner before it. -/
def join : Ligature → Ligature
  | lamed _ => lamed true
  | ya _ => ya true
  | tifinagh _ => tifinagh true
  | oldTurkicI _ => oldTurkicI true
  | part => part

/-- Whether `c` may stand within the ligature before `part` without a change of its shape. -/
def passes (c : Char) : Ligature → Bool
  | alef => columns c == 0 && !CharRange.tableContains arabicBreaks c
  | _ => CharRange.tableContains ignoredMarks c

/-- What `c` makes of the part after it: the columns that are added, and the part that `c` leaves
to be extended, if it leaves any.  There is no value if `c` does not belong to the ligature. -/
def extend? (c : Char) (part : Ligature) : Option (Int × Option Ligature) :=
  if part ≠ alef ∧ c = joiner then some (0, some part.join)
  else if part.passes c then some (0, some part)
  else match part with
    | alef => if CharRange.tableContains lams c then some (0, none) else none
    | lamed joined => if joined ∧ c = hebrewAlef then some (0, none) else none
    | ya joined => if joined ∧ c = vowelSignI then some (0, some vowelYa) else none
    | vowelYa => if c = bugineseA then some (0, none) else none
    | tifinagh joined =>
      if c = consonantJoiner then some (1, some tifinaghJoined)
      else if joined ∧ CharRange.tableContains tifinaghConsonants c then some (0, none)
      else none
    | tifinaghJoined =>
      if CharRange.tableContains tifinaghConsonants c then some (-1, none) else none
    | lisuTone => if firstTones.contains c then some (0, none) else none
    | oldTurkicI joined => if joined ∧ c = orkhonEc then some (0, none) else none
    | khmerLetter => if c = coeng then some (-1, none) else none

end Ligature

end AssertionHeader.Text
