import AssertionHeader.Text.CharRange

/-!
# Blanks

Blanks are the characters with the Unicode property `White_Space`.  They separate words and are cut
from the ends of a line.  Zero-width characters, such as the zero-width space and the byte-order
mark, are not blanks, nor are the separators U+001C to U+001F.
-/

namespace AssertionHeader.Text

/-- The characters with the property `White_Space`. -/
def blanks : List CharRange :=
  [⟨0x9, 0xD⟩, ⟨0x20, 0x20⟩, ⟨0x85, 0x85⟩, ⟨0xA0, 0xA0⟩, ⟨0x1680, 0x1680⟩, ⟨0x2000, 0x200A⟩,
    ⟨0x2028, 0x2029⟩, ⟨0x202F, 0x202F⟩, ⟨0x205F, 0x205F⟩, ⟨0x3000, 0x3000⟩]

def isBlank (c : Char) : Bool :=
  CharRange.tableContains blanks c

/-- A text without the blanks at its end. -/
def trimEnd (text : List Char) : List Char :=
  (text.reverse.dropWhile isBlank).reverse

/-- A text without the blanks at either end. -/
def trim (text : List Char) : List Char :=
  trimEnd (text.dropWhile isBlank)

/-- The maximal runs of characters between blanks. -/
def words (text : List Char) : List (List Char) :=
  (text.splitOnP isBlank).filter (!·.isEmpty)

theorem words_nil : words [] = [] := rfl

end AssertionHeader.Text
