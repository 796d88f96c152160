import AssertionHeader.Proofs.Literals
import AssertionHeader.Proofs.Meaning.Code

/-!
# Diagnostics and the tokens in them

A token that spells no macro gets into the header by its diagnostic, in a string literal.  The
literal escapes line feeds, but compilers also end a line at a carriage return, on its own or before
a line feed (`Text.sourceLines`).  `Report.ofText?` reads a diagnostic in this way: as one error
directive, or as one macro that is continued on a second line.

`Diagnostic.ofText?_block` says what it reads.  A token without carriage returns is reported in
full, whatever else is in it, and nothing of it is read as anything but the text of the message.  A
token with carriage returns is not contained: its diagnostic is cut into lines at each of them.
-/

namespace AssertionHeader

namespace Text

/-! ## Lines of source code -/

/-- The lines of a text as a compiler reads it.  A line ends at a line feed, at a carriage return,
or at the two together; what follows the last end is a line too. -/
def sourceLines : List Char → List (List Char)
  | [] => [[]]
  | '\r' :: '\n' :: rest => [] :: sourceLines rest
  | '\r' :: rest => [] :: sourceLines rest
  | '\n' :: rest => [] :: sourceLines rest
  | c :: rest => (sourceLines rest).modifyHead (c :: ·)

lemma sourceLines_cons {c : Char} (hreturn : c ≠ '\r') (hfeed : c ≠ '\n') (rest : List Char) :
    sourceLines (c :: rest) = (sourceLines rest).modifyHead (c :: ·) := by
  rw [sourceLines]
  · rintro others rfl
    exact absurd rfl hreturn
  · exact hreturn
  · exact hfeed

lemma sourceLines_return {rest : List Char} (h : rest.head? ≠ some '\n') :
    sourceLines ('\r' :: rest) = [] :: sourceLines rest := by
  rw [sourceLines]
  rintro others rfl
  exact h rfl

lemma sourceLines_append_lineFeed {line : List Char} (hreturn : '\r' ∉ line) (hfeed : '\n' ∉ line)
    (rest : List Char) : sourceLines (line ++ '\n' :: rest) = line :: sourceLines rest := by
  induction line with
  | nil => rfl
  | cons c others ih =>
    rw [List.mem_cons, not_or] at hreturn hfeed
    rw [List.cons_append, sourceLines_cons (Ne.symm hreturn.1) (Ne.symm hfeed.1),
      ih hreturn.2 hfeed.2]
    rfl

/-- A line of a document is cut at its carriage returns, unless the last of them belongs to the line
feed that closes it. -/
lemma sourceLines_line {text : List Char} {last : Char} (htext : '\n' ∉ text)
    (hreturn : last ≠ '\r') (hfeed : last ≠ '\n') :
    sourceLines (text ++ [last, '\n']) = (text ++ [last]).splitOn '\r' ++ [[]] := by
  have hend : sourceLines ['\n'] = [[], []] := rfl
  induction text with
  | nil =>
    have hlast : [last].splitOn '\r' = [[last]] :=
      List.splitOn_eq_singleton (by simpa using hreturn.symm)
    rw [List.nil_append, List.nil_append, sourceLines_cons hreturn hfeed, hend, hlast]
    rfl
  | cons c rest ih =>
    rw [List.mem_cons, not_or] at htext
    have hrest := ih htext.2
    have hhead : (rest ++ [last, '\n']).head? ≠ some '\n' := by
      cases rest with
      | nil => simpa using hfeed
      | cons d others =>
        rw [List.mem_cons, not_or] at htext
        simpa using Ne.symm htext.2.1
    rw [List.cons_append, List.cons_append, List.splitOn_eq_splitOnP,
      List.splitOnP_cons_eq_if_modifyHead, ← List.splitOn_eq_splitOnP]
    by_cases hc : c = '\r'
    · rw [if_pos (beq_iff_eq.2 hc), hc, sourceLines_return hhead, hrest, List.cons_append]
    · obtain ⟨first, others, hsplit⟩ :=
        List.exists_cons_of_ne_nil (List.splitOn_ne_nil '\r' (rest ++ [last]))
      rw [if_neg (by simpa using hc), sourceLines_cons hc (Ne.symm htext.1), hrest, hsplit]
      rfl

end Text

/-! ## Reading diagnostics -/

/-- What a compiler is told by a diagnostic. -/
inductive Report where
  /-- An error where the text stands. -/
  | here (message : String)
  /-- An error where the macro of the given name is used. -/
  | onUse (name message : String)
  deriving DecidableEq, Repr

namespace Report

/-- The message of a string literal with nothing behind it but the given text. -/
def message? (behind text : List Char) : Option String :=
  match LiteralPart.read? text with
  | some (.literal message, rest) => if rest = behind then some message else none
  | _ => none

/-- The report of lines of source code: an error directive, or the definition of a macro that fails,
with one line continued on the next.  Nothing follows the end of the last line. -/
def ofLines? : List (List Char) → Option Report
  | [line, []] =>
    ("#error ".toList.isPrefixOf? line).bind fun text => (message? [] text).map here
  | [first, second, []] =>
    ("#define ".toList.isPrefixOf? first).bind fun text =>
      (Identifier.readUpTo? '(' text).bind fun (name, rest) =>
        if rest = "...) \\".toList then
          ("    _Static_assert(0, ".toList.isPrefixOf? second).bind fun text =>
            (message? [')'] text).map (onUse name)
        else none
  | _ => none

def ofText? (text : String) : Option Report :=
  ofLines? (Text.sourceLines text.toList)

/-- A literal is closed by its last quote and says what it quotes. -/
lemma message?_quote (message : String) {behind : List Char}
    (h : ∀ c, behind.head? = some c → Identifier.isPart c = false) :
    message? behind ((Text.quote message).toList ++ behind) = some message := by
  have hlegal : (LiteralPart.literal message).IsLegal := trivial
  have hread : LiteralPart.read? ((Text.quote message).toList ++ behind) =
      some (.literal message, behind) :=
    LiteralPart.read?_spelling hlegal behind h
  rw [message?, hread]
  exact if_pos rfl

/-- A definition is not read from lines that do not open with one. -/
lemma ofLines?_eq_none {first : List Char} {rest : List (List Char)} (hlength : 2 ≤ rest.length)
    (hfirst : "#define ".toList.isPrefixOf? first = none) : ofLines? (first :: rest) = none := by
  unfold ofLines?
  split
  · next line hlines =>
    obtain ⟨rfl, rfl⟩ := List.cons.inj hlines
    simp at hlength
  · next line second hlines =>
    obtain ⟨rfl, rfl⟩ := List.cons.inj hlines
    rw [hfirst, Option.bind_none]
  · rfl

end Report

/-! ## The report of a diagnostic -/

namespace Text

/-- Carriage returns are not escaped. -/
lemma return_mem_escape_iff {text : List Char} : '\r' ∈ escape text ↔ '\r' ∈ text := by
  have hchar : ∀ c, '\r' ∈ escapeChar c ↔ '\r' = c := by
    intro c
    unfold escapeChar
    split
    · decide
    · decide
    · decide
    · exact List.mem_singleton
  simp [escape, List.mem_flatMap, hchar]

lemma return_mem_quote_iff {text : String} : '\r' ∈ (quote text).toList ↔ '\r' ∈ text.toList := by
  simp [quote, return_mem_escape_iff]

end Text

namespace Diagnostic

lemma return_mem_literal_iff {token : String} :
    '\r' ∈ (literal token).toList ↔ '\r' ∈ token.toList := by
  simp [literal, Text.return_mem_quote_iff]

section

variable {token : String}

lemma sourceLines_block_of_isIdentifier (h : Identifier.isIdentifier token.toList = true) :
    Text.sourceLines (block token).text.toList =
      [("#define " ++ token ++ "(...) \\").toList,
        ("    _Static_assert(0, " ++ literal token ++ ")").toList, []] := by
  have hname : '\r' ∉ token.toList ∧ '\n' ∉ token.toList :=
    ⟨Text.lacks_of_isIdentifier (by decide) h, Text.isLine_of_isIdentifier h⟩
  have hliteral : '\r' ∉ (literal token).toList ∧ '\n' ∉ (literal token).toList :=
    ⟨mt return_mem_literal_iff.1 hname.1, Text.isLine_quote _⟩
  have hend : Text.sourceLines (Text.unlines []).toList = [[]] := rfl
  rw [block, if_pos h, Text.toList_unlines_cons, Text.sourceLines_append_lineFeed,
    Text.toList_unlines_cons, Text.sourceLines_append_lineFeed, hend]
  all_goals simp [hname, hliteral]

/-- Whatever stands in the token, its diagnostic is cut at carriage returns only. -/
lemma sourceLines_block_of_not_isIdentifier (h : Identifier.isIdentifier token.toList = false) :
    Text.sourceLines (block token).text.toList =
      ("#error " ++ literal token).toList.splitOn '\r' ++ [[]] := by
  have hliteral : ("#error " ++ literal token).toList =
      "#error \"".toList ++ Text.escape ("unrecognized assertion name: " ++ token).toList ++
        ['"'] := by
    simp [literal, Text.quote]
  have hline : '\n' ∉ ("#error " ++ literal token).toList := by
    have hmark : Text.IsLine "#error " := by decide
    exact Text.isLine_append.2 ⟨hmark, Text.isLine_quote _⟩
  rw [hliteral, List.mem_append, not_or] at hline
  have hreturn : '"' ≠ '\r' := by decide
  have hfeed : '"' ≠ '\n' := by decide
  have hlines := Text.sourceLines_line hline.1 hreturn hfeed
  rw [← hliteral] at hlines
  rw [← hlines, block, h, if_neg Bool.false_ne_true]
  simp [Text.line, literal, Text.quote]

/-- A token without carriage returns is reported. -/
lemma ofText?_block_of_not_mem (h : '\r' ∉ token.toList) :
    Report.ofText? (block token).text =
      if Identifier.isIdentifier token.toList then
        some (.onUse token ("unrecognized assertion name: " ++ token))
      else some (.here ("unrecognized assertion name: " ++ token)) := by
  have hmessage : ∀ behind : List Char, (∀ c, behind.head? = some c →
      Identifier.isPart c = false) → Report.message? behind ((literal token).toList ++ behind) =
        some ("unrecognized assertion name: " ++ token) :=
    fun behind hbehind => Report.message?_quote _ hbehind
  rw [Report.ofText?]
  by_cases htoken : Identifier.isIdentifier token.toList = true
  · have hdefine : "#define ".toList.isPrefixOf? ("#define " ++ token ++ "(...) \\").toList =
        some (token.toList ++ '(' :: "...) \\".toList) := by
      rw [List.isPrefixOf?_eq_some_iff_append_eq]
      simp
    have hname : Identifier.readUpTo? '(' (token.toList ++ '(' :: "...) \\".toList) =
        some (token, "...) \\".toList) :=
      Identifier.readUpTo?_append htoken (by decide)
    have hassert : "    _Static_assert(0, ".toList.isPrefixOf?
        ("    _Static_assert(0, " ++ literal token ++ ")").toList =
          some ((literal token).toList ++ [')']) := by
      rw [List.isPrefixOf?_eq_some_iff_append_eq]
      simp
    rw [sourceLines_block_of_isIdentifier htoken, if_pos htoken, Report.ofLines?, hdefine,
      Option.bind_some, hname, Option.bind_some]
    simp only [if_true, hassert, Option.bind_some]
    rw [hmessage [')'] (by simp; decide), Option.map_some]
  · have hreturn : '\r' ∉ ("#error " ++ literal token).toList := by
      simp [return_mem_literal_iff, h]
    have herror : "#error ".toList.isPrefixOf? ("#error " ++ literal token).toList =
        some (literal token).toList := by
      rw [List.isPrefixOf?_eq_some_iff_append_eq]
      simp
    have hread := hmessage [] (by simp)
    rw [List.append_nil] at hread
    rw [Bool.not_eq_true] at htoken
    rw [sourceLines_block_of_not_isIdentifier htoken, List.splitOn_eq_singleton hreturn,
      List.singleton_append, Report.ofLines?, herror, Option.bind_some, hread, htoken,
      if_neg Bool.false_ne_true, Option.map_some]

/-- A carriage return cuts the literal in two, and neither line is read as a diagnostic. -/
lemma ofText?_block_of_mem (h : '\r' ∈ token.toList) :
    Report.ofText? (block token).text = none := by
  have htoken : Identifier.isIdentifier token.toList = false := by
    rw [Bool.eq_false_iff]
    intro hidentifier
    exact Text.lacks_of_isIdentifier (by decide) hidentifier h
  have hreturn : '\r' ∈ ("#error " ++ literal token).toList := by
    simp [return_mem_literal_iff, h]
  obtain ⟨front, back, hsplit, hfront⟩ := List.eq_append_cons_of_mem hreturn
  have hdefine : ¬ "#define ".toList <+: front := by
    rintro ⟨rest, rfl⟩
    simp at hsplit
  have hback : 1 ≤ (back.splitOn '\r').length :=
    List.length_pos_iff.2 (List.splitOn_ne_nil '\r' back)
  rw [Report.ofText?, sourceLines_block_of_not_isIdentifier htoken, hsplit,
    List.splitOn_append_cons_self_of_not_mem hfront, List.cons_append]
  refine Report.ofLines?_eq_none ?_ (Text.isPrefixOf?_eq_none hdefine)
  simpa using hback

end

/-- **A diagnostic contains its token, unless there are carriage returns in it.**  For a token
without carriage returns, whatever else is in it, a compiler reads the diagnostic as one report: an
error directive on a line of its own or, if the token is an identifier, a macro on two lines of
which the second continues the first.  The message, up to the quote that closes it, is the wording
and the whole token, and nothing follows.

A token with carriage returns is not reported: its diagnostic is cut into lines at each of them, so
that the token goes on as source code. -/
theorem ofText?_block (token : String) :
    let text := (block token).text
    let message := "unrecognized assertion name: " ++ token
    Text.sourceLines text.toList =
      (if Identifier.isIdentifier token.toList then
        [("#define " ++ token ++ "(...) \\").toList,
          ("    _Static_assert(0, " ++ Text.quote message ++ ")").toList, []]
      else ("#error " ++ Text.quote message).toList.splitOn '\r' ++ [[]]) ∧
    Report.ofText? text =
      if '\r' ∈ token.toList then none
      else if Identifier.isIdentifier token.toList then some (.onUse token message)
      else some (.here message) := by
  intro text message
  refine ⟨?_, ?_⟩
  · by_cases htoken : Identifier.isIdentifier token.toList = true
    · rw [if_pos htoken]
      exact sourceLines_block_of_isIdentifier htoken
    · rw [if_neg htoken]
      exact sourceLines_block_of_not_isIdentifier (Bool.not_eq_true _ ▸ htoken)
  · by_cases hreturn : '\r' ∈ token.toList
    · rw [if_pos hreturn]
      exact ofText?_block_of_mem hreturn
    · rw [if_neg hreturn]
      exact ofText?_block_of_not_mem hreturn

/-- What follows a carriage return in a token can be a directive. -/
theorem not_ofText?_block_directive :
    let token := "Assert\r#define NULL 1"
    Name.isCandidate (Text.trim token.toList) = true ∧
      Name.decode token = .unrecognized token ∧
      Report.ofText? (block token).text ≠
        some (.here ("unrecognized assertion name: " ++ token)) ∧
      Text.sourceLines (block token).text.toList =
        ["#error \"unrecognized assertion name: Assert".toList, "#define NULL 1\"".toList, []] := by
  decide

end Diagnostic

end AssertionHeader
