import AssertionHeader.Numeral

/-!
# TOML entries

A settings file is a TOML document without tables: lines, each with at most one entry `key = value`
and a comment.  A value is a string, in any of the four forms of TOML, or an integer.
`Toml.entries?` reads such a document.  It refuses every other document, well formed or not, because
no setting is spelled by another kind of value or under a table.
-/

namespace AssertionHeader.Toml

inductive Value where
  | text (text : String)
  | integer (value : Int)
  deriving DecidableEq, Repr

structure Entry where
  key : String
  value : Value
  deriving DecidableEq, Repr

/-! ## Characters -/

/-- Whether a character may stand between the parts of a line. -/
def isSpace (c : Char) : Bool :=
  c == ' ' || c == '\t'

/-- Whether a character may stand in a comment or a string: all but the ASCII control characters
other than the tab. -/
def isPrintable (c : Char) : Bool :=
  c == '\t' || (' ' ≤ c && c != '\x7f')

/-- Whether a character may stand in a key without quotes. -/
def isBare (c : Char) : Bool :=
  c.isAlphanum || c == '_' || c == '-'

/-- A carriage return and a line feed end a line like a line feed alone.  Any other carriage return
is kept; it is printable nowhere. -/
def unifyBreaks : List Char → List Char
  | '\r' :: '\n' :: rest => '\n' :: unifyBreaks rest
  | c :: rest => c :: unifyBreaks rest
  | [] => []

/-- The text without spaces at its front. -/
def skipSpaces (text : List Char) : List Char :=
  text.dropWhile isSpace

/-! ## Strings -/

structure StringForm where
  quote : Char
  /-- Whether a backslash opens an escape. -/
  escapes : Bool
  /-- Whether the string opens and closes with three quotes and may hold line breaks. -/
  multiline : Bool
  deriving DecidableEq, Repr

/-- The quotes at the end of a string's contents and what follows the string, if it closes here.  Of
up to five quotes in a row, the last three close a string of several lines. -/
def StringForm.close? (form : StringForm) (text : List Char) : Option (List Char × List Char) :=
  let quotes := (text.takeWhile (· == form.quote)).length
  if form.multiline then
    if 3 ≤ quotes then
      some (List.replicate (min quotes 5 - 3) form.quote, text.drop (min quotes 5))
    else none
  else if 1 ≤ quotes then some ([], text.drop 1)
  else none

/-- The character that `count` hexadecimal digits at the front of a text denote. -/
def codePoint? (count : Nat) (text : List Char) : Option Char :=
  let digits := text.take count
  if digits.length = count then
    (Numeral.ofDigits? 16 digits).bind fun n => if n.isValidChar then some (Char.ofNat n) else none
  else none

/-- The character that an escape denotes and the number of characters that it takes, behind the
backslash. -/
def escape? : List Char → Option (Char × Nat)
  | 'b' :: _ => some ('\x08', 1)
  | 't' :: _ => some ('\t', 1)
  | 'n' :: _ => some ('\n', 1)
  | 'f' :: _ => some ('\x0c', 1)
  | 'r' :: _ => some ('\r', 1)
  | '"' :: _ => some ('"', 1)
  | '\\' :: _ => some ('\\', 1)
  | 'u' :: rest => (codePoint? 4 rest).map fun c => (c, 5)
  | 'U' :: rest => (codePoint? 8 rest).map fun c => (c, 9)
  | _ => none

/-- The number of blanks that a backslash at the end of a line takes with it: all up to the next
other character.  It is zero if no line ends behind the backslash. -/
def continuation (text : List Char) : Nat :=
  if (skipSpaces text).head? = some '\n' then
    (text.takeWhile fun c => isSpace c || c == '\n').length
  else 0

/-- The contents of a string, from behind its opening quotes, and what follows the string. -/
def stringBody? (form : StringForm) : List Char → Option (List Char × List Char)
  | [] => none
  | c :: rest =>
    if c = form.quote then
      match form.close? (c :: rest) with
      | some closed => some closed
      | none => (stringBody? form rest).map fun (body, after) => (c :: body, after)
    else if c = '\\' && form.escapes then
      if form.multiline && 0 < continuation rest then
        stringBody? form (rest.drop (continuation rest))
      else
        match escape? rest with
        | none => none
        | some (escaped, count) =>
          (stringBody? form (rest.drop count)).map fun (body, after) => (escaped :: body, after)
    else if isPrintable c || (form.multiline && c == '\n') then
      (stringBody? form rest).map fun (body, after) => (c :: body, after)
    else none
termination_by text => text.length
decreasing_by all_goals simp only [List.length_cons, List.length_drop]; omega

/-- The text without a line break at its front. -/
def dropBreak : List Char → List Char
  | '\n' :: rest => rest
  | text => text

def lineString? : List Char → Option (List Char × List Char)
  | '"' :: rest => stringBody? ⟨'"', true, false⟩ rest
  | '\x27' :: rest => stringBody? ⟨'\x27', false, false⟩ rest
  | _ => none

/-- A string of any form, and what follows it. -/
def string? : List Char → Option (List Char × List Char)
  | '"' :: '"' :: '"' :: rest => stringBody? ⟨'"', true, true⟩ (dropBreak rest)
  | '\x27' :: '\x27' :: '\x27' :: rest => stringBody? ⟨'\x27', false, true⟩ (dropBreak rest)
  | text => lineString? text

/-! ## Integers -/

/-- The first number above all integers. -/
def integerLimit : Nat := Nat.pow 2 63

/-- The number that digits denote, of which underscores may separate two. -/
def digits? (base : Nat) (text : List Char) : Option Nat :=
  let groups := text.splitOn '_'
  if groups.any (·.isEmpty) then none else Numeral.ofDigits? base groups.flatten

/-- The number that a decimal integer without its sign denotes.  Only zero starts with a zero. -/
def decimal? : List Char → Option Nat
  | '0' :: _ :: _ => none
  | text => digits? 10 text

/-- The number that the whole text denotes as an integer.  Only a decimal one has a sign. -/
def integer? (text : List Char) : Option Int :=
  let magnitude (limit : Nat) (n : Option Nat) : Option Nat := n.filter (· < limit)
  match text with
  | '0' :: 'x' :: digits => (magnitude integerLimit (digits? 16 digits)).map Int.ofNat
  | '0' :: 'o' :: digits => (magnitude integerLimit (digits? 8 digits)).map Int.ofNat
  | '0' :: 'b' :: digits => (magnitude integerLimit (digits? 2 digits)).map Int.ofNat
  | '+' :: digits => (magnitude integerLimit (decimal? digits)).map Int.ofNat
  | '-' :: digits => (magnitude (integerLimit + 1) (decimal? digits)).map fun n => -Int.ofNat n
  | digits => (magnitude integerLimit (decimal? digits)).map Int.ofNat

/-! ## Documents -/

def isIntegerPart (c : Char) : Bool :=
  isBare c || c == '+'

def value? (text : List Char) : Option (Value × List Char) :=
  match string? text with
  | some (body, after) => some (.text (String.ofList body), after)
  | none =>
    (integer? (text.takeWhile isIntegerPart)).map fun n =>
      (.integer n, text.dropWhile isIntegerPart)

def key? (text : List Char) : Option (List Char × List Char) :=
  match text.takeWhile isBare with
  | [] => lineString? text
  | key => some (key, text.dropWhile isBare)

def keyValue? (text : List Char) : Option (Entry × List Char) :=
  (key? text).bind fun (key, afterKey) =>
    match skipSpaces afterKey with
    | '=' :: rest =>
      (value? (skipSpaces rest)).map fun (value, after) => (⟨String.ofList key, value⟩, after)
    | _ => none

/-- What follows the end of a line, where only spaces and a comment are left on it. -/
def lineEnd? (text : List Char) : Option (List Char) :=
  let rest :=
    match skipSpaces text with
    | '#' :: comment => comment.dropWhile isPrintable
    | other => other
  match rest with
  | [] => some []
  | '\n' :: next => some next
  | _ => none

/-- The entry of a line, if it has one, and the lines that follow. -/
def line? (text : List Char) : Option (Option Entry × List Char) :=
  match skipSpaces text with
  | [] => some (none, [])
  | '#' :: _ => (lineEnd? text).map fun next => (none, next)
  | '\n' :: next => some (none, next)
  | content =>
    (keyValue? content).bind fun (entry, after) =>
      (lineEnd? after).map fun next => (some entry, next)

/-- The entries of lines.  Every line but an empty last one takes a character, so what follows it is
shorter. -/
def lines? (text : List Char) : Option (List Entry) :=
  if text.isEmpty then some []
  else
    match line? text with
    | none => none
    | some (entry, next) =>
      if _shorter : next.length < text.length then
        (lines? next).map fun entries => entry.toList ++ entries
      else none
termination_by text.length

/-- The text without a byte-order mark at its front. -/
def dropMark : List Char → List Char
  | '\ufeff' :: rest => rest
  | text => text

def entries? (document : List Char) : Option (List Entry) :=
  lines? (unifyBreaks (dropMark document))

end AssertionHeader.Toml
