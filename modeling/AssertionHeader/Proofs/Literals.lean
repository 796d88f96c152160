import AssertionHeader.Proofs.Directives

/-!
# Messages as C reads them

A failure message is written as string literals and stringified operands, one space apart.  The
preprocessor puts the source text of an argument in the place of each `#name`, and the compiler
concatenates the literals.  `LiteralPart.Reads` reads such a sequence: a literal ends with the first
quote that no backslash stands before, and each `#` takes the longest name behind it.

`Message.literal_reads` says that every message is read back as it is meant: with its texts,
whatever characters they have, and with the source text of each operand in single quotes.  What
remains of a text when a literal is closed is carried into the next one, so the proof follows the
text that is `pending`.
-/

namespace AssertionHeader

/-! ## String literals -/

namespace Text

/-- Reads on in a string literal, up to the quote that closes it: what stands before this quote, as
it is written, and what follows it.  A literal ends on its line, and has no escapes but those of a
quote, a backslash and a line feed. -/
def splitLiteral? : List Char → Option (List Char × List Char)
  | [] => none
  | '"' :: rest => some ([], rest)
  | '\n' :: _ => none
  | '\\' :: c :: rest =>
    if c ∈ ['"', '\\', 'n'] then
      (splitLiteral? rest).map fun (body, rest) => ('\\' :: c :: body, rest)
    else none
  | c :: rest => (splitLiteral? rest).map fun (body, rest) => (c :: body, rest)

lemma splitLiteral?_escapeChar (c : Char) (text : List Char) :
    splitLiteral? (escapeChar c ++ text) =
      (splitLiteral? text).map fun (body, rest) => (escapeChar c ++ body, rest) := by
  unfold escapeChar
  split
  · simp [splitLiteral?]
  · simp [splitLiteral?]
  · simp [splitLiteral?]
  · next hquote hslash hfeed =>
    rw [List.singleton_append, splitLiteral?]
    · rfl
    · exact fun h => hquote h
    · exact fun h => hfeed h
    · exact fun d rest h => absurd h hslash

/-- The literal of a text is closed by its last quote. -/
lemma splitLiteral?_escape (text rest : List Char) :
    splitLiteral? (escape text ++ '"' :: rest) = some (escape text, rest) := by
  induction text with
  | nil => rfl
  | cons c others ih =>
    have hsplit : escape (c :: others) = escapeChar c ++ escape others := rfl
    rw [hsplit, List.append_assoc, splitLiteral?_escapeChar, ih, Option.map_some]

end Text

/-! ## Parts of a message -/

/-- What a failure message is put together from in C. -/
inductive LiteralPart where
  /-- A string literal with the given value. -/
  | literal (text : String)
  /-- The source text of the argument for an operand. -/
  | stringified (operand : String)
  deriving DecidableEq, Repr

namespace LiteralPart

def spelling : LiteralPart → String
  | literal text => Text.quote text
  | stringified operand => "#" ++ operand

/-- The string that a part stands for, given the source text of the arguments. -/
def value (arguments : String → String) : LiteralPart → String
  | literal text => text
  | stringified operand => arguments operand

/-- An operand that is stringified must be a name. -/
def IsLegal : LiteralPart → Prop
  | literal _ => True
  | stringified operand => Identifier.isIdentifier operand.toList = true

/-- The part that a text opens with, and what follows it. -/
def read? : List Char → Option (LiteralPart × List Char)
  | '"' :: text =>
    (Text.splitLiteral? text).map fun (body, rest) =>
      (literal (String.ofList (Text.unescape body)), rest)
  | '#' :: text =>
    if Identifier.isIdentifier (text.takeWhile Identifier.isPart) then
      some (stringified (String.ofList (text.takeWhile Identifier.isPart)),
        text.dropWhile Identifier.isPart)
    else none
  | _ => none

/-- The text consists of the given parts, one space apart. -/
inductive Reads : List Char → List LiteralPart → Prop where
  | last {text : List Char} {part : LiteralPart} (h : read? text = some (part, [])) :
      Reads text [part]
  | more {text rest : List Char} {part : LiteralPart} {parts : List LiteralPart}
      (h : read? text = some (part, ' ' :: rest)) (hrest : Reads rest parts) :
      Reads text (part :: parts)

lemma Reads.unique {text : List Char} {parts others : List LiteralPart} (h : Reads text parts)
    (hothers : Reads text others) : parts = others := by
  induction h generalizing others with
  | last hread =>
    cases hothers with
    | last hread' => simpa [hread] using hread'
    | more hread' => simp [hread] at hread'
  | more hread _ ih =>
    cases hothers with
    | last hread' => simp [hread] at hread'
    | more hread' hrest' =>
      obtain ⟨rfl, rfl⟩ : _ ∧ _ := by simpa [hread] using hread'
      rw [ih hrest']

/-- A part is read as far as it is spelled, unless its name goes on. -/
lemma read?_spelling {part : LiteralPart} (h : part.IsLegal) (rest : List Char)
    (hrest : ∀ c, rest.head? = some c → Identifier.isPart c = false) :
    read? (part.spelling.toList ++ rest) = some (part, rest) := by
  cases part with
  | literal text =>
    have htext : (literal text).spelling.toList ++ rest =
        '"' :: (Text.escape text.toList ++ '"' :: rest) := by
      simp [spelling, Text.quote]
    rw [htext, read?, Text.splitLiteral?_escape, Option.map_some]
    simp only [Text.unescape_escape, String.ofList_toList]
  | stringified operand =>
    have htext : (stringified operand).spelling.toList ++ rest =
        '#' :: (operand.toList ++ rest) := by
      simp [spelling]
    have hparts : ∀ c ∈ operand.toList, Identifier.isPart c = true :=
      fun c hc => Identifier.isPart_of_mem h hc
    have hstop : rest.takeWhile Identifier.isPart = [] ∧
        rest.dropWhile Identifier.isPart = rest := by
      cases rest with
      | nil => exact ⟨rfl, rfl⟩
      | cons c others => simp [hrest c rfl]
    have hname : (operand.toList ++ rest).takeWhile Identifier.isPart = operand.toList := by
      rw [List.takeWhile_append_of_pos hparts, hstop.1, List.append_nil]
    have hidentifier : Identifier.isIdentifier operand.toList = true := h
    rw [htext, read?, hname, List.dropWhile_append_of_pos hparts, hstop.2, String.ofList_toList,
      if_pos hidentifier]

/-- Parts that are written one space apart are read back. -/
lemma reads_intercalate {parts : List LiteralPart} (hne : parts ≠ [])
    (h : ∀ part ∈ parts, part.IsLegal) :
    Reads (" ".intercalate (parts.map spelling)).toList parts := by
  induction parts with
  | nil => exact absurd rfl hne
  | cons part rest ih =>
    have hpart : part.IsLegal := h part List.mem_cons_self
    cases rest with
    | nil =>
      have hread := read?_spelling hpart [] (by simp)
      rw [List.append_nil] at hread
      simpa using Reads.last hread
    | cons next others =>
      have hnext := ih (List.cons_ne_nil next others) fun other hmem =>
        h other (List.mem_cons_of_mem _ hmem)
      have hspace : Identifier.isPart ' ' = false := by decide
      have hread := read?_spelling hpart
        (' ' :: (" ".intercalate ((next :: others).map spelling)).toList) (by simp [hspace])
      rw [List.map_cons, List.map_cons, String.intercalate_cons_cons, ← List.map_cons]
      simpa using Reads.more hread hnext

end LiteralPart

/-! ## Messages -/

namespace Message

/-- The message with each operand shown in the given way. -/
def shown (operand : String → String) (message : Message) : String :=
  String.join <| message.map fun
    | .text text => text
    | .operand name => operand name

/-- The parts that spell `pending` and then the message. -/
def parts (pending : String) : Message → List LiteralPart
  | [] => [.literal pending]
  | .text text :: rest => parts (pending ++ text) rest
  | .operand name :: rest => .literal (pending ++ "\x27") :: .stringified name :: parts "\x27" rest

section

variable {pending : String} {message : Message}

lemma literalParts_eq_map : literalParts pending message =
    (parts pending message).map LiteralPart.spelling := by
  induction message generalizing pending with
  | nil => rfl
  | cons piece rest ih =>
    cases piece with
    | text text => exact ih
    | operand name =>
      rw [literalParts, parts, ih, List.map_cons, List.map_cons]
      rfl

lemma head?_parts : ∃ text, (parts pending message).head? = some (.literal text) := by
  induction message generalizing pending with
  | nil => exact ⟨pending, rfl⟩
  | cons piece rest ih =>
    cases piece with
    | text text => exact ih
    | operand name => exact ⟨pending ++ "\x27", rfl⟩

lemma getLast?_parts : ∃ text, (parts pending message).getLast? = some (.literal text) := by
  induction message generalizing pending with
  | nil => exact ⟨pending, rfl⟩
  | cons piece rest ih =>
    cases piece with
    | text text => exact ih
    | operand name =>
      obtain ⟨text, htext⟩ := @ih "\x27"
      exact ⟨text, by simp [parts, List.getLast?_cons, htext]⟩

lemma isLegal_of_mem_parts
    (h : ∀ name, .operand name ∈ message → Identifier.isIdentifier name.toList = true) :
    ∀ part ∈ parts pending message, part.IsLegal := by
  induction message generalizing pending with
  | nil => exact List.forall_mem_singleton.2 trivial
  | cons piece rest ih =>
    have hrest := fun {pending} =>
      @ih pending fun name hmem => h name (List.mem_cons_of_mem _ hmem)
    cases piece with
    | text text => exact hrest
    | operand name =>
      exact List.forall_mem_cons.2 ⟨trivial,
        List.forall_mem_cons.2 ⟨h name List.mem_cons_self, hrest⟩⟩

/-- The quotes around the source text of an operand stand in the literals at its sides. -/
lemma join_value_parts (arguments : String → String) :
    String.join ((parts pending message).map (·.value arguments)) =
      pending ++ message.shown fun name => "\x27" ++ arguments name ++ "\x27" := by
  induction message generalizing pending with
  | nil => simp [parts, shown, LiteralPart.value]
  | cons piece rest ih =>
    cases piece with
    | text text =>
      rw [parts, ih, shown, shown, List.map_cons, String.join_cons, String.append_assoc]
    | operand name =>
      rw [parts, List.map_cons, List.map_cons, String.join_cons, String.join_cons, ih, shown, shown,
        List.map_cons, String.join_cons]
      simp only [LiteralPart.value, String.append_assoc]

end

/-- **A message is read as it is meant.**  If its operands are names, the text of a message is read
in one way: as string literals and stringified operands, one space apart, of which the first and the
last are literals.  It stays on one line.  Given any source texts of the arguments, the parts
concatenate to the texts of the message with each argument in single quotes.

Documentation has the same texts, with the bare name of each operand. -/
theorem literal_reads (message : Message) (arguments : String → String)
    (h : ∀ name, .operand name ∈ message → Identifier.isIdentifier name.toList = true) :
    ∃ parts : List LiteralPart,
      message.literal = " ".intercalate (parts.map LiteralPart.spelling) ∧
      (∀ others, LiteralPart.Reads message.literal.toList others ↔ others = parts) ∧
      (∃ text, parts.head? = some (.literal text)) ∧
      (∃ text, parts.getLast? = some (.literal text)) ∧
      Text.IsLine message.literal ∧
      String.join (parts.map (·.value arguments)) =
        message.shown (fun name => "\x27" ++ arguments name ++ "\x27") ∧
      message.plain = message.shown id := by
  have hliteral : message.literal =
      " ".intercalate ((parts "" message).map LiteralPart.spelling) := by
    rw [literal, literalParts_eq_map]
  have hne : parts "" message ≠ [] := by
    simpa [literalParts_eq_map] using literalParts_ne_nil "" message
  have hreads : LiteralPart.Reads message.literal.toList (parts "" message) := by
    rw [hliteral]
    exact LiteralPart.reads_intercalate hne (isLegal_of_mem_parts h)
  refine ⟨parts "" message, hliteral, fun others => ⟨fun hothers => hothers.unique hreads, ?_⟩,
    head?_parts, getLast?_parts, isLine_literal fun name hmem => ?_, ?_, rfl⟩
  · rintro rfl
    exact hreads
  · exact Text.isLine_of_isIdentifier (h name hmem)
  · rw [join_value_parts, String.empty_append]

/-- Adjacent operands share a literal, and what is special in a literal is escaped. -/
theorem literal_reads_adjacent :
    let message : Message := [.operand "arg1", .operand "arg2", .text " \"\\\n"]
    let arguments : String → String := fun name => if name = "arg1" then "a" else "\"b\""
    message.literal = "\"\x27\" #arg1 \"\x27\x27\" #arg2 \"\x27 \\\"\\\\\\n\"" ∧
      ∃ parts, LiteralPart.Reads message.literal.toList parts ∧
        String.join (parts.map (·.value arguments)) = "\x27a\x27\x27\"b\"\x27 \"\\\n" := by
  intro message arguments
  have hnames : ∀ name, .operand name ∈ message → Identifier.isIdentifier name.toList = true := by
    intro name hmem
    have hname : name = "arg1" ∨ name = "arg2" := by simpa [message] using hmem
    rcases hname with rfl | rfl <;> decide
  obtain ⟨parts, -, hreads, -, -, -, hvalue, -⟩ := literal_reads message arguments hnames
  exact ⟨by decide, parts, (hreads parts).2 rfl, hvalue.trans (by decide)⟩

end Message

end AssertionHeader
