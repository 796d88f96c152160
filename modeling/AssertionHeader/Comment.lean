import AssertionHeader.Text.Fill
import AssertionHeader.Text.Lines

/-!
# Documentation comments

A documentation comment stands before each macro.  It holds paragraphs, descriptions of the macro's
parameters and a description of its value.  Paragraphs and descriptions are filled to a number of
columns; the descriptions of all parameters start in one column.
-/

namespace AssertionHeader

structure Comment where
  paragraphs : List String := []
  /-- The name and description of each parameter. -/
  params : List (String × String) := []
  /-- The lines that describe the value; they are not filled. -/
  returns : List String := []
  deriving DecidableEq, Repr

namespace Comment

def ofSummary (summary : String) : Comment :=
  { paragraphs := [summary] }

def addParagraph (comment : Comment) (text : String) : Comment :=
  { comment with paragraphs := comment.paragraphs ++ [text] }

def addParam (comment : Comment) (name description : String) : Comment :=
  { comment with params := comment.params ++ [(name, description)] }

/-- The comment with the given description of the value, in place of any other. -/
def setReturns (comment : Comment) (lines : List String) : Comment :=
  { comment with returns := lines }

/-- A line of a comment without text. -/
def emptyLine : String := " *"

/-- What the lines of a paragraph open with. -/
def margin : String := " * "

/-- The filled paragraphs, apart by a line without text. -/
def paragraphLines (limit : Nat) (paragraphs : List String) : List String :=
  [emptyLine].intercalate (paragraphs.map fun text => Text.fill limit margin margin text)

def spaces (count : Nat) : String :=
  String.ofList (List.replicate count ' ')

/-- The columns of the widest name among the parameters. -/
def nameColumns (params : List (String × String)) : Nat :=
  (params.map fun param => Text.width param.1.toList).foldr max 0

/-- What the description of a parameter opens with, if names take the given number of columns. -/
def paramMargin (columns : Nat) (name : String) : String :=
  " * @param " ++ name ++ spaces (columns - Text.width name.toList) ++ "  "

/-- What the further lines of a description open with, so that they go on in the column that the
description starts in. -/
def paramIndent (columns : Nat) (name : String) : String :=
  " *" ++ spaces (Text.width (paramMargin columns name).toList - 2)

def paramLines (limit columns : Nat) (param : String × String) : List String :=
  Text.fill limit (paramMargin columns param.1) (paramIndent columns param.1) param.2

def returnLines : List String → List String
  | [] => []
  | first :: rest => (" * @return " ++ first) :: rest.map (" *         " ++ ·)

/-- The lines between the opening and the closing line. -/
def bodyLines (comment : Comment) (limit : Nat) : List String :=
  paragraphLines limit comment.paragraphs ++
    (if comment.params.isEmpty && comment.returns.isEmpty then [] else [emptyLine]) ++
    comment.params.flatMap (paramLines limit (nameColumns comment.params)) ++
    returnLines comment.returns

def lines (comment : Comment) (limit : Nat) : List String :=
  "/**" :: comment.bodyLines limit ++ [" */"]

/-- The comment as it is written, filled to the given number of columns. -/
def text (comment : Comment) (limit : Nat) : String :=
  Text.unlines (comment.lines limit)

end Comment

end AssertionHeader
