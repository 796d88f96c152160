import AssertionHeader.Text.Blank
import AssertionHeader.Text.Width

/-!
# Filled paragraphs

A paragraph is filled greedily: a word joins the current line, after one space, as long as the line
stays within the given number of columns.  Each line opens with a margin, the first line with one of
its own.  The first word after a margin always joins it, however wide.
-/

namespace AssertionHeader.Text

/-- The lines that a line already holding a word grows into, as the words that follow come. -/
def fillFrom (limit : Nat) (margin line : List Char) : List (List Char) → List (List Char)
  | [] => [line]
  | word :: rest =>
    if width line + 1 + width word ≤ limit then
      fillFrom limit margin (line ++ ' ' :: word) rest
    else
      line :: fillFrom limit margin (margin ++ word) rest

/-- The lines that words fill.  Without words there is one line, the first margin without the blanks
at its end. -/
def fillWords (limit : Nat) (firstMargin margin : List Char) : List (List Char) → List (List Char)
  | [] => [trimEnd firstMargin]
  | word :: rest => fillFrom limit margin (firstMargin ++ word) rest

/-- The lines that the words of a text fill. -/
def fill (limit : Nat) (firstMargin margin text : String) : List String :=
  (fillWords limit firstMargin.toList margin.toList (words text.toList)).map String.ofList

end AssertionHeader.Text
