import AssertionHeader.Proofs.Document

/-!
# Comments that close where they should

A comment of C ends with the first `*/` in it, wherever that stands.  The documentation of a macro
is put together from names and types that come from outside, and is filled, which puts its words
side by side in ever new ways.  `Run.isOneComment_docs` says that none of it can close a comment
early: in every documentation, and in the note of the header, the mark `/*` opens the text and
occurs nowhere else, and `*/` stands before the last line feed and nowhere else.

The reason is that no `/` gets between the two marks, and this can be seen from each text on its
own, whatever it is put next to (`Comment.Avoids`).  What comes from outside is an identifier
wherever it gets into a comment; a name that is none has no documentation.
-/

namespace AssertionHeader

open Text

/-! ## Comments of C -/

namespace Text

/-- The mark occurs once in the text, directly behind the given front. -/
def OccursOnce (mark front text : String) : Prop :=
  ∀ before, (∃ behind, text = before ++ mark ++ behind) ↔ before = front

/-- The text is one comment of C and a line feed: a comment is opened at its start and nowhere else,
and closed before the line feed and nowhere else. -/
structure IsOneComment (text : String) : Prop where
  opening : OccursOnce "/*" "" text
  closing : ∃ inner, text = "/*" ++ inner ++ "*/\n" ∧ OccursOnce "*/" ("/*" ++ inner) text

section

variable {inner : String} (h : Lacks '/' inner)

include h

/-- Behind the first slash of the comment there is one more, the last but one character. -/
lemma slash_unique {before behind : List Char}
    (heq : '*' :: (inner.toList ++ '*' :: '/' :: ['\n']) = before ++ '/' :: behind) :
    before = '*' :: (inner.toList ++ ['*']) ∧ behind = ['\n'] := by
  have hinner : '/' ∉ '*' :: (inner.toList ++ ['*']) := by
    have hlacks : '/' ∉ inner.toList := h
    simp [hlacks]
  have hslash : '*' :: (inner.toList ++ ['*']) ++ '/' :: ['\n'] = before ++ '/' :: behind := by
    simpa using heq
  obtain ⟨hbefore, -, hbehind⟩ :=
    (List.append_cons_inj_of_notMem hinner (by decide)).1 hslash
  exact ⟨hbefore.symm, hbehind.symm⟩

lemma occursOnce_opening : OccursOnce "/*" "" ("/*" ++ inner ++ "*/\n") := by
  intro before
  constructor
  · rintro ⟨behind, htext⟩
    have hlist : '/' :: '*' :: (inner.toList ++ '*' :: '/' :: ['\n']) =
        before.toList ++ '/' :: '*' :: behind.toList := by
      simpa using congrArg String.toList htext
    cases hbefore : before.toList with
    | nil => exact String.toList_eq_nil_iff.1 hbefore
    | cons c rest =>
      rw [hbefore, List.cons_append] at hlist
      obtain ⟨-, hbehind⟩ := slash_unique h (List.cons.inj hlist).2
      simp at hbehind
  · rintro rfl
    exact ⟨inner ++ "*/\n", by simp [String.append_assoc]⟩

lemma occursOnce_closing : OccursOnce "*/" ("/*" ++ inner) ("/*" ++ inner ++ "*/\n") := by
  intro before
  constructor
  · rintro ⟨behind, htext⟩
    have hlist : '/' :: '*' :: (inner.toList ++ '*' :: '/' :: ['\n']) =
        before.toList ++ '*' :: '/' :: behind.toList := by
      simpa using congrArg String.toList htext
    cases hbefore : before.toList with
    | nil => simp [hbefore] at hlist
    | cons c rest =>
      rw [hbefore, List.cons_append] at hlist
      obtain ⟨rfl, hrest⟩ := List.cons.inj hlist
      rw [List.append_cons rest] at hrest
      obtain ⟨hfront, -⟩ := slash_unique h hrest
      have hinner : rest = '*' :: inner.toList := List.append_cancel_right hfront
      rw [← String.toList_inj, hbefore, hinner]
      simp
  · rintro rfl
    exact ⟨"\n", by simp [String.append_assoc]⟩

/-- Without a slash in it, nothing opens or closes a comment but its marks. -/
lemma isOneComment_of_lacks : IsOneComment ("/*" ++ inner ++ "*/\n") :=
  ⟨occursOnce_opening h, inner, rfl, occursOnce_closing h⟩

end

lemma lacks_unlines {c : Char} (hc : c ≠ '\n') {lines : List String}
    (h : ∀ line ∈ lines, Lacks c line) : Lacks c (unlines lines) := by
  induction lines with
  | nil => exact List.not_mem_nil
  | cons first rest ih =>
    have hfirst : c ∉ first.toList := h first List.mem_cons_self
    have hrest : c ∉ (unlines rest).toList :=
      ih fun line hmem => h line (List.mem_cons_of_mem _ hmem)
    rw [Lacks, toList_unlines_cons]
    simp [hfirst, hrest, hc]

/-- Lines between an opening and a closing line. -/
lemma isOneComment_unlines {first : String} {body : List String} (hfirst : Lacks '/' first)
    (hbody : ∀ line ∈ body, Lacks '/' line) :
    IsOneComment (unlines (("/*" ++ first) :: body ++ [" */"])) := by
  have hinner : Lacks '/' (first ++ "\n" ++ unlines body ++ " ") := by
    have hmarks : Lacks '/' "\n" ∧ Lacks '/' " " := by decide
    simp [hfirst, hmarks, lacks_unlines (by decide) hbody]
  have htext : unlines (("/*" ++ first) :: body ++ [" */"]) =
      "/*" ++ (first ++ "\n" ++ unlines body ++ " ") ++ "*/\n" := by
    rw [← String.toList_inj]
    simp [unlines, line, String.toList_append]
  rw [htext]
  exact isOneComment_of_lacks hinner

end Text

/-! ## Comments without a character -/

namespace Comment

/-- The character is in no text of the comment. -/
structure Avoids (c : Char) (comment : Comment) : Prop where
  paragraphs : ∀ text ∈ comment.paragraphs, Lacks c text
  names : ∀ param ∈ comment.params, Lacks c param.1
  descriptions : ∀ param ∈ comment.params, Lacks c param.2
  returns : ∀ text ∈ comment.returns, Lacks c text

namespace Avoids

variable {comment : Comment} (h : comment.Avoids '/')

include h

/-- However the words are filled, no slash gets between them. -/
lemma lacks_of_mem_bodyLines {limit : Nat} {line : String}
    (hline : line ∈ comment.bodyLines limit) : Lacks '/' line := by
  have hspaces : ∀ count, Lacks '/' (spaces count) := lacks_spaces (by decide)
  have hmarks : Lacks '/' " * @param " ∧ Lacks '/' "  " ∧ Lacks '/' " *" := by decide
  rcases mem_bodyLines hline with rfl | ⟨text, htext, hline⟩ | ⟨param, hparam, hline⟩ | hline
  · decide
  · exact lacks_of_mem_fill (by decide) (by decide) (by decide) (h.paragraphs text htext) hline
  · have hmargin : Lacks '/' (paramMargin (nameColumns comment.params) param.1) := by
      simp [paramMargin, hmarks, hspaces, h.names param hparam]
    have hindent : Lacks '/' (paramIndent (nameColumns comment.params) param.1) := by
      simp [paramIndent, hmarks, hspaces]
    exact lacks_of_mem_fill (by decide) hmargin hindent (h.descriptions param hparam) hline
  · obtain ⟨text, htext, rfl | rfl⟩ := mem_returnLines hline
    · exact lacks_append.2 ⟨by decide, h.returns text htext⟩
    · exact lacks_append.2 ⟨by decide, h.returns text htext⟩

lemma isOneComment_text (limit : Nat) : IsOneComment (comment.text limit) := by
  have hopening : "/**" = "/*" ++ "*" := by decide
  rw [text, lines, hopening]
  exact isOneComment_unlines (by decide) fun line => h.lacks_of_mem_bodyLines

end Avoids

end Comment

/-! ## What macros say of themselves -/

lemma Message.lacks_plain {c : Char} {message : Message}
    (htexts : ∀ text, .text text ∈ message → Lacks c text)
    (hoperands : ∀ name, .operand name ∈ message → Lacks c name) : Lacks c message.plain := by
  induction message with
  | nil => exact List.not_mem_nil
  | cons piece rest ih =>
    have hrest : Lacks c (plain rest) :=
      ih (fun text hmem => htexts text (List.mem_cons_of_mem _ hmem))
        fun name hmem => hoperands name (List.mem_cons_of_mem _ hmem)
    cases piece with
    | text text =>
      have hsplit : plain (.text text :: rest) = text ++ plain rest := String.join_cons
      rw [hsplit, lacks_append]
      exact ⟨htexts text List.mem_cons_self, hrest⟩
    | operand name =>
      have hsplit : plain (.operand name :: rest) = name ++ plain rest := String.join_cons
      rw [hsplit, lacks_append]
      exact ⟨hoperands name List.mem_cons_self, hrest⟩

/-- What a statement says of its operands has no slash in it. -/
lemma Statement.lacks_of_mem_message {statement : Statement} {text : String}
    (h : .text text ∈ statement.message) : Lacks '/' text := by
  have hrepr : ∀ value : Nat, Lacks '/' (toString value) := lacks_repr (by decide)
  have hphrase : ∀ relation : Relation, Lacks '/' relation.phrase := by
    rintro (_ | _ | _ | _ | _ | _) <;> decide
  cases statement <;>
    simp only [message, List.mem_cons, reduceCtorEq, Piece.text.injEq, List.not_mem_nil, or_false,
      false_or] at h
  case truth operand holds | failure operand holds | null operand holds =>
    subst h
    cases holds <;> decide
  case number operand value holds =>
    rw [h, lacks_append]
    refine ⟨?_, hrepr value⟩
    cases holds <;> decide
  case order first relation second =>
    rw [h, lacks_append, lacks_append]
    exact ⟨⟨by decide, hphrase relation⟩, by decide⟩
  case sameness first second holds =>
    rcases h with rfl | rfl
    · decide
    · cases holds <;> decide

namespace Assertion

variable {token : String} {a : Assertion}

lemma lacks_summary (h : Name.decode token = .assertion a) : Lacks '/' a.summary := by
  have hoperands : ∀ operand ∈ a.operands, Lacks '/' operand :=
    fun operand hmem => lacks_of_isIdentifier (by decide) (isIdentifier_operands h operand hmem)
  have hplain : ∀ passes, Lacks '/' (a.statement passes).message.plain := by
    intro passes
    refine Message.lacks_plain (fun text => Statement.lacks_of_mem_message) fun name hmem => ?_
    rcases Condition.eq_or_eq_of_mem_statement hmem with rfl | rfl
    · exact Condition.lacks_getD hoperands 0
    · exact Condition.lacks_getD hoperands 1
  have hsentence : ∀ opening passes, Lacks '/' opening →
      Lacks '/' (opening ++ (a.statement passes).message.plain ++ ".") := by
    intro opening passes hopening
    rw [lacks_append, lacks_append]
    exact ⟨⟨hopening, hplain passes⟩, by decide⟩
  have hsummary : a.summary = summaryFor a.polarity a.statement := by
    obtain ⟨polarity, spelling, sense, -, rfl⟩ := Name.decode_eq_assertion_iff.1 h
    rfl
  rw [hsummary]
  cases a.polarity with
  | assert | assertNot => exact hsentence "Asserts that " true (by decide)
  | failIf => exact hsentence "Fails if " false (by decide)
  | failUnless => exact hsentence "Fails unless " true (by decide)

lemma avoids_comment (h : Name.decode token = .assertion a) : a.comment.Avoids '/' where
  paragraphs := List.forall_mem_singleton.2 (lacks_summary h)
  names := by
    intro param hparam
    rcases List.mem_append.1 hparam with hparam | hparam
    · exact lacks_of_isIdentifier (by decide)
        (isIdentifier_operands h _ (List.of_mem_zip hparam).1)
    · rw [List.mem_singleton.1 hparam]
      decide
  descriptions := by
    have hType : Lacks '/' a.operandType :=
      lacks_of_isIdentifier (by decide) (isIdentifier_operandType h)
    have hdescriptions : ∀ description ∈ a.condition.operandDescriptions a.operandType,
        Lacks '/' description := by
      have hmarks : Lacks '/' "the first " ∧ Lacks '/' "the second " ∧ Lacks '/' " operand" := by
        decide
      cases a.condition with
      | order relation => simp [Condition.operandDescriptions, hmarks, hType]
      | boolean | status | truth | null | literal | identity =>
        simp [Condition.operandDescriptions, Lacks]
    intro param hparam
    rcases List.mem_append.1 hparam with hparam | hparam
    · exact hdescriptions _ (List.of_mem_zip hparam).2
    · rw [List.mem_singleton.1 hparam]
      decide
  returns := by simp [comment]

end Assertion

lemma Comparator.avoids_comment {c : Comparator} (hType : Lacks '/' c.operandType) :
    c.comment.Avoids '/' where
  paragraphs := by
    have hname : Lacks '/' c.name := lacks_append.2 ⟨hType, by decide⟩
    have hopening : Lacks '/' ("Compares two " ++ c.operandType ++ " values") := by
      rw [lacks_append, lacks_append]
      exact ⟨⟨by decide, hType⟩, by decide⟩
    cases hstyle : c.style with
    | arithmetic | lexical =>
      simp only [comment, Comparator.paragraphs, hstyle]
      exact List.forall_mem_singleton.2 (lacks_append.2 ⟨hopening, by decide⟩)
    | bytewise =>
      simp only [comment, Comparator.paragraphs, hstyle]
      refine List.forall_mem_cons.2 ⟨lacks_append.2 ⟨hopening, by decide⟩, ?_⟩
      rw [List.forall_mem_singleton, lacks_append, lacks_append, lacks_append]
      -- A long literal is checked as the list of its characters; as a string it is slow to decide.
      exact ⟨⟨⟨lacks_ofList.2 (by decide), lacks_ofList.2 (by decide)⟩, hname⟩,
        lacks_ofList.2 (by decide)⟩
  names := by simp [comment, Lacks]
  descriptions := by
    have hmarks : Lacks '/' "the first " ∧ Lacks '/' "the second " := by decide
    simp [comment, hmarks, hType]
  returns := by cases hstyle : c.style <;> simp [comment, signLines, hstyle, Lacks]

lemma Diagnostic.isOneComment_doc {token : String}
    (h : Identifier.isIdentifier token.toList = true) : IsOneComment (block token).doc := by
  have hmarks : Lacks '/' " " ∧ Lacks '/' ": unrecognized assertion name " := by decide
  have htoken : Lacks '/' token := lacks_of_isIdentifier (by decide) h
  have hinner : Lacks '/' (" " ++ token ++ ": unrecognized assertion name ") := by
    simp [hmarks, htoken]
  have hdoc : (block token).doc =
      "/*" ++ (" " ++ token ++ ": unrecognized assertion name ") ++ "*/\n" := by
    rw [block, if_pos h, ← String.toList_inj]
    simp [line]
  rw [hdoc]
  exact isOneComment_of_lacks hinner

namespace Name

/-- The documentation of a name is one comment.  A name that is no identifier has none. -/
lemma isOneComment_doc (settings : Settings) (token : String) :
    if Identifier.isIdentifier token.toList then IsOneComment ((decode token).block settings).doc
    else ((decode token).block settings).doc = "" := by
  split
  · next htoken =>
    have htext := text_decode token
    cases hdecode : decode token with
    | assertion a =>
      simp only [block, Assertion.block]
      exact (Assertion.avoids_comment hdecode).isOneComment_text settings.wrapWidth
    | comparator c =>
      obtain ⟨operandType, hnames, rfl⟩ := decode_eq_comparator_iff.1 hdecode
      have hType : Lacks '/' (Comparator.ofType (String.ofList operandType)).operandType := by
        refine lacks_of_isIdentifier (by decide) ?_
        rw [Comparator.ofType, String.toList_ofList]
        exact hnames.isIdentifier
      simp only [block, Comparator.block]
      exact (Comparator.avoids_comment hType).isOneComment_text settings.wrapWidth
    | unrecognized text =>
      obtain rfl : text = token := by rwa [hdecode] at htext
      exact Diagnostic.isOneComment_doc htoken
  · next htoken =>
    rw [decode_of_not_isIdentifier (Bool.not_eq_true _ ▸ htoken), block, Diagnostic.block,
      if_neg htoken]

end Name

/-! ## Headers -/

namespace Header

/-- The note closes at its end, if the comparators in it are called by assertions. -/
lemma isOneComment_advice {types tokens : List String}
    (h : ∀ operandType ∈ types, operandType ∈ Run.orderedTypes tokens) :
    IsOneComment (advice (types.map fun operandType =>
      ⟨Comparator.nameFor operandType, Run.ordersOf operandType tokens⟩)) := by
  have hlines : adviceLines (types.map fun operandType =>
      ⟨Comparator.nameFor operandType, Run.ordersOf operandType tokens⟩) =
        ("/*" ++ "") :: ([" * Unresolved dependencies; define these before using the macros below:",
          " *"] ++ types.flatMap fun operandType =>
            Comparator.advice operandType (Run.ordersOf operandType tokens)) ++ [" */"] := by
    rw [adviceLines, flatMap_adviceLines h]
    rfl
  have hheading : ∀ text ∈
      [" * Unresolved dependencies; define these before using the macros below:", " *"],
      Lacks '/' text := by
    simp [Lacks]
  rw [advice, hlines]
  refine isOneComment_unlines (by decide) fun text hmem => ?_
  rcases List.mem_append.1 hmem with hmem | hmem
  · exact hheading text hmem
  · obtain ⟨operandType, hType, hadvice⟩ := List.mem_flatMap.1 hmem
    exact Run.lacks_of_mem_advice (h operandType hType) (.inr rfl) text hadvice

end Header

namespace Run

/-- **Comments close where they should.**  Whatever names a run is fed, each block of its header
that is named by an identifier is documented by one comment, which is not closed before its end; any
other block has no documentation.  The note on the macros that the user has to define is one comment
too. -/
theorem isOneComment_docs (settings : Settings) (tokens : List String) :
    let header := ((start settings).feedAll tokens).resolve.header
    (∀ block ∈ header.comparators ++ header.assertions,
      if Identifier.isIdentifier block.name.toList then IsOneComment block.doc
      else block.doc = "") ∧
    IsOneComment (Header.advice header.missing) := by
  intro header
  have hheader : header = (ofTokens settings.normalized tokens.eraseDups).resolve.header := by
    rw [← feedAll_start]
  rw [hheader, comparators_resolve, assertions_resolve, Header.missing_ofTokens]
  · constructor
    · intro block hmem
      rw [← List.map_append] at hmem
      obtain ⟨token, -, rfl⟩ := List.mem_map.1 hmem
      rw [name_blockOf]
      exact Name.isOneComment_doc settings.normalized token
    · exact Header.isOneComment_advice fun operandType hmem => List.mem_of_mem_filter hmem
  · exact Ledger.nodup_eraseDups tokens

/-- A name that would close a comment is not documented. -/
theorem isOneComment_docs_slash :
    let header := ((start {}).feedAll ["Assert_*/", "Assert_slash"]).resolve.header
    header.assertions.map (fun block => (block.name, block.doc)) =
        [("Assert_*/", ""), ("Assert_slash", "/* Assert_slash: unrecognized assertion name */\n")] ∧
      IsOneComment "/* Assert_slash: unrecognized assertion name */\n" := by
  intro header
  have hdocs := (isOneComment_docs {} ["Assert_*/", "Assert_slash"]).1
    (Diagnostic.block "Assert_slash") (by decide)
  exact ⟨by decide, hdocs⟩

end Run

end AssertionHeader
