import AssertionHeader.Proofs.Document

/-!
# The width of documentation

The width that documentation is filled to decides where its lines break, and nothing else.  What a
documentation says apart from that is its wording, `Comment.wording`: its text without the markers
that its lines open with, and with every run of blanks as one blank.

The fill takes other turns at every word under another width.  But each line that it breaks off
costs the text a line feed, a marker and blanks, which without the marker is a run of blanks, in the
place of the space that would have stood there (`Comment.alike_fillFrom`).  Texts that differ in
this way only are `Text.Alike`, and go on to be so side by side.

`Run.finish_wrapWidth` compares two runs that are fed the same names.  Step by step, their ledgers
agree and their blocks are the same but for layout (`Run.SameButLayout`), and so the documents are.
-/

namespace AssertionHeader

/-! ## Texts that differ in blanks -/

namespace Text

/-- The text with each run of blanks as one blank, given whether it stands behind a blank. -/
def collapseFrom (behindBlank : Bool) : List Char → List Char
  | [] => []
  | c :: rest =>
    if isBlank c then
      if behindBlank then collapseFrom true rest else ' ' :: collapseFrom true rest
    else c :: collapseFrom false rest

/-- The text with each run of blanks as one blank. -/
def collapse (text : List Char) : List Char :=
  collapseFrom false text

/-- The texts differ in their runs of blanks only, whatever they stand between. -/
def Alike (s t : List Char) : Prop :=
  ∀ behindBlank rest, collapseFrom behindBlank (s ++ rest) = collapseFrom behindBlank (t ++ rest)

namespace Alike

variable {s t u : List Char}

lemma refl (s : List Char) : Alike s s :=
  fun _ _ => rfl

lemma symm (h : Alike s t) : Alike t s :=
  fun behindBlank rest => (h behindBlank rest).symm

lemma trans (h : Alike s t) (h' : Alike t u) : Alike s u :=
  fun behindBlank rest => (h behindBlank rest).trans (h' behindBlank rest)

lemma collapse_eq (h : Alike s t) : collapse s = collapse t := by
  have hends := h false []
  rwa [List.append_nil, List.append_nil] at hends

lemma append_left (text : List Char) (h : Alike s t) : Alike (text ++ s) (text ++ t) := by
  induction text with
  | nil => exact h
  | cons c others ih =>
    intro behindBlank rest
    simp only [List.cons_append, collapseFrom, ih true rest, ih false rest]

lemma append_right (h : Alike s t) (text : List Char) : Alike (s ++ text) (t ++ text) := by
  intro behindBlank rest
  rw [List.append_assoc, List.append_assoc]
  exact h behindBlank (text ++ rest)

lemma append {s' t' : List Char} (h : Alike s t) (h' : Alike s' t') :
    Alike (s ++ s') (t ++ t') :=
  (h.append_right s').trans (h'.append_left t)

end Alike

lemma collapseFrom_true_blanks {blanks : List Char} (h : ∀ c ∈ blanks, isBlank c = true)
    (rest : List Char) : collapseFrom true (blanks ++ rest) = collapseFrom true rest := by
  induction blanks with
  | nil => rfl
  | cons c others ih =>
    have hblank : isBlank c = true := h c List.mem_cons_self
    rw [List.cons_append, collapseFrom, if_pos hblank, if_pos rfl]
    exact ih fun other hmem => h other (List.mem_cons_of_mem _ hmem)

/-- A run of blanks is as good as one space. -/
lemma alike_space {c : Char} {blanks : List Char} (h : ∀ b ∈ c :: blanks, isBlank b = true) :
    Alike (c :: blanks) [' '] := by
  intro behindBlank rest
  have hfirst : isBlank c = true := h c List.mem_cons_self
  have hspace : isBlank ' ' = true := by decide
  have hothers := collapseFrom_true_blanks (fun b hmem => h b (List.mem_cons_of_mem _ hmem)) rest
  rw [List.cons_append, List.singleton_append, collapseFrom, collapseFrom, if_pos hfirst,
    if_pos hspace, hothers]

end Text

/-! ## What a comment says -/

namespace Comment

open Text

/-- A line of a comment without the marker that it opens with. -/
def dropMarker : List Char → List Char
  | ' ' :: '*' :: rest => rest
  | line => line

/-- What a documentation says, however it is broken into lines. -/
def wording (doc : String) : String :=
  String.ofList <| collapse <|
    ['\n'].intercalate ((linesOf doc).map fun line => dropMarker line.toList)

/-- Lines without their markers, one below the other. -/
def bare (lines : List (List Char)) : List Char :=
  lines.flatMap fun line => dropMarker line ++ ['\n']

lemma bare_cons (line : List Char) (rest : List (List Char)) :
    bare (line :: rest) = dropMarker line ++ '\n' :: bare rest := by
  simp [bare]

lemma bare_append (first second : List (List Char)) :
    bare (first ++ second) = bare first ++ bare second :=
  List.flatMap_append

lemma dropMarker_append {line : List Char} (h : " *".toList <+: line) (text : List Char) :
    dropMarker (line ++ text) = dropMarker line ++ text := by
  obtain ⟨rest, rfl⟩ := h
  rfl

lemma wording_unlines {lines : List String} (h : ∀ line ∈ lines, IsLine line) :
    wording (unlines lines) = String.ofList (collapse (bare (lines.map String.toList))) := by
  have hempty : [""].map (fun line => dropMarker line.toList) = [[]] := rfl
  rw [wording, linesOf_unlines h, List.map_append, hempty, intercalate_concat,
    List.append_nil, bare, List.flatMap_map, List.flatMap_map]

/-! ## Filled text -/

/-- What opens the further lines of a filled text: a marker and blanks. -/
structure IsIndent (margin : List Char) : Prop where
  marker : " *".toList <+: margin
  blank : ∀ c ∈ dropMarker margin, isBlank c = true

/-- A line feed and the margin behind it are as good as a space. -/
lemma IsIndent.alike_break {margin : List Char} (h : IsIndent margin) (text : List Char) :
    Alike ('\n' :: (dropMarker margin ++ text)) (' ' :: text) := by
  have hblanks : ∀ b ∈ '\n' :: dropMarker margin, isBlank b = true :=
    List.forall_mem_cons.2 ⟨by decide, h.blank⟩
  exact (alike_space hblanks).append_right text

/-- However words are filled, they follow the first line, each after a blank. -/
lemma alike_fillFrom (limit : Nat) {margin line : List Char} (hmargin : IsIndent margin)
    (hline : " *".toList <+: line) (words : List (List Char)) :
    Alike (bare (fillFrom limit margin line words))
      (dropMarker line ++ (words.flatMap (' ' :: ·) ++ ['\n'])) := by
  induction words generalizing line with
  | nil =>
    have hlast : bare (fillFrom limit margin line []) = dropMarker line ++ ['\n'] :=
      List.append_nil _
    rw [hlast]
    exact Alike.refl _
  | cons word rest ih =>
    rw [List.flatMap_cons, fillFrom]
    split
    · -- The word joins the line.
      have hgrown := ih (hline.trans (List.prefix_append line (' ' :: word)))
      rw [dropMarker_append hline] at hgrown
      simpa using hgrown
    · -- The line is broken off; its line feed and the margin of the next one are blanks.
      have hnext := ih (hmargin.marker.trans (List.prefix_append margin word))
      rw [dropMarker_append hmargin.marker, List.append_assoc] at hnext
      have hbreak := (hnext.append_left ['\n']).trans (hmargin.alike_break _)
      rw [bare_cons]
      simpa using hbreak.append_left (dropMarker line)

/-- A text says the same under any two widths. -/
lemma alike_fill (limit limit' : Nat) {firstMargin margin : String}
    (hfirst : " *".toList <+: firstMargin.toList) (hmargin : IsIndent margin.toList)
    (text : String) :
    Alike (bare ((fill limit firstMargin margin text).map String.toList))
      (bare ((fill limit' firstMargin margin text).map String.toList)) := by
  have hfilled : ∀ limit, (fill limit firstMargin margin text).map String.toList =
      fillWords limit firstMargin.toList margin.toList (words text.toList) := by
    intro limit
    simp [fill, Function.comp_def]
  rw [hfilled, hfilled]
  cases words text.toList with
  | nil => exact Alike.refl _
  | cons word rest =>
    have hline : " *".toList <+: firstMargin.toList ++ word :=
      hfirst.trans (List.prefix_append _ _)
    exact (alike_fillFrom limit hmargin hline rest).trans
      (alike_fillFrom limit' hmargin hline rest).symm

/-! ## Whole comments -/

lemma isIndent_margin : IsIndent margin.toList := by
  have hmargin : dropMarker margin.toList = [' '] := rfl
  refine ⟨⟨[' '], rfl⟩, ?_⟩
  rw [hmargin, List.forall_mem_singleton]
  decide

lemma isIndent_paramIndent (columns : Nat) (name : String) :
    IsIndent (paramIndent columns name).toList := by
  have hindent : (paramIndent columns name).toList = " *".toList ++
      List.replicate (width (paramMargin columns name).toList - 2) ' ' := by
    simp [paramIndent, spaces]
  rw [hindent]
  refine ⟨List.prefix_append _ _, fun c hc => ?_⟩
  have hspace : c = ' ' := List.eq_of_mem_replicate hc
  rw [hspace]
  decide

lemma marker_paramMargin (columns : Nat) (name : String) :
    " *".toList <+: (paramMargin columns name).toList := by
  simp [paramMargin]

section

variable (limit limit' : Nat)

lemma alike_paragraphLines (paragraphs : List String) :
    Alike (bare ((paragraphLines limit paragraphs).map String.toList))
      (bare ((paragraphLines limit' paragraphs).map String.toList)) := by
  unfold paragraphLines
  have hfilled := alike_fill limit limit' isIndent_margin.marker isIndent_margin
  induction paragraphs with
  | nil => exact Alike.refl _
  | cons first rest ih =>
    cases rest with
    | nil => simpa using hfilled first
    | cons second others =>
      simp only [List.map_cons, List.intercalate_cons_cons, List.map_append, bare_append] at ih ⊢
      exact ((hfilled first).append (Alike.refl _)).append ih

lemma alike_paramLines (columns : Nat) (params : List (String × String)) :
    Alike (bare ((params.flatMap (paramLines limit columns)).map String.toList))
      (bare ((params.flatMap (paramLines limit' columns)).map String.toList)) := by
  induction params with
  | nil => exact Alike.refl _
  | cons param rest ih =>
    have hparam := alike_fill limit limit' (marker_paramMargin columns param.1)
      (isIndent_paramIndent columns param.1) param.2
    rw [List.flatMap_cons, List.flatMap_cons, List.map_append, List.map_append, bare_append,
      bare_append]
    exact hparam.append ih

lemma alike_bodyLines (comment : Comment) :
    Alike (bare ((comment.bodyLines limit).map String.toList))
      (bare ((comment.bodyLines limit').map String.toList)) := by
  have hparagraphs := alike_paragraphLines limit limit' comment.paragraphs
  have hparams := alike_paramLines limit limit' (nameColumns comment.params) comment.params
  simp only [bodyLines, List.map_append, bare_append]
  exact ((hparagraphs.append_right _).append hparams).append_right _

lemma alike_lines (comment : Comment) :
    Alike (bare ((comment.lines limit).map String.toList))
      (bare ((comment.lines limit').map String.toList)) := by
  have hsplit : ∀ limit, bare ((comment.lines limit).map String.toList) =
      bare ["/**".toList] ++ (bare ((comment.bodyLines limit).map String.toList) ++
        bare [" */".toList]) := by
    intro limit
    rw [← bare_append, ← bare_append, lines, List.cons_append, List.map_cons, List.map_append]
    rfl
  rw [hsplit, hsplit]
  exact ((alike_bodyLines limit limit' comment).append_right _).append_left _

/-- A comment says the same under any two widths. -/
lemma IsSingleLine.wording_text {comment : Comment} (h : comment.IsSingleLine) :
    wording (comment.text limit) = wording (comment.text limit') := by
  have htext : ∀ limit, wording (comment.text limit) =
      String.ofList (collapse (bare ((comment.lines limit).map String.toList))) :=
    fun limit => wording_unlines fun line hline => (h.isLine_and_not_directive hline).1
  rw [htext, htext, (alike_lines limit limit' comment).collapse_eq]

end

example : (ofSummary "Fails if a is less than b.").text 16 =
      "/**\n * Fails if a is\n * less than b.\n */\n" ∧
    wording "/**\n * Fails if a is\n * less than b.\n */\n" =
      "/** Fails if a is less than b. / " := by
  decide

end Comment

/-! ## Blocks -/

/-- The blocks define the same macro, and their documentations say the same. -/
structure Block.SameButLayout (block other : Block) : Prop where
  name : block.name = other.name
  text : block.text = other.text
  wording : Comment.wording block.doc = Comment.wording other.doc

lemma Block.sameButLayout_of_wording {name doc doc' text : String}
    (h : Comment.wording doc = Comment.wording doc') :
    SameButLayout ⟨name, doc, text⟩ ⟨name, doc', text⟩ :=
  ⟨rfl, rfl, h⟩

section

variable (settings : Settings) (width : Nat)

/-- The definition does not see the width. -/
lemma Assertion.definition_wrapWidth (a : Assertion) :
    a.definition { settings with wrapWidth := width } = a.definition settings := by
  have hexpression : a.expression { settings with wrapWidth := width } = a.expression settings := by
    rw [expression, expression]
    cases a.condition <;> rfl
  rw [definition, definition, hexpression]

lemma Assertion.IsPlain.sameButLayout_block {a : Assertion} (h : a.IsPlain) :
    (a.block settings).SameButLayout (a.block { settings with wrapWidth := width }) := by
  rw [block, block, definition_wrapWidth settings width]
  exact Block.sameButLayout_of_wording ((isSingleLine_comment h).wording_text _ _)

lemma Comparator.sameButLayout_block (c : Comparator) :
    (c.block settings).SameButLayout (c.block { settings with wrapWidth := width }) := by
  rw [block, block]
  exact Block.sameButLayout_of_wording ((isSingleLine_comment c).wording_text _ _)

lemma Name.sameButLayout_block (token : String) :
    ((decode token).block settings).SameButLayout
      ((decode token).block { settings with wrapWidth := width }) := by
  cases hdecode : decode token with
  | assertion a => exact (Assertion.isPlain_of_decode hdecode).sameButLayout_block settings width
  | comparator c => exact c.sameButLayout_block settings width
  | unrecognized text => exact ⟨rfl, rfl, rfl⟩

/-- The ledger does not see the width. -/
lemma Name.events_wrapWidth (name : Name) :
    name.events { settings with wrapWidth := width } = name.events settings := by
  cases name <;> rfl

end

/-! ## Runs -/

/-- Comparators that are written by themselves differ in the layout of their documentation only, and
leave the same ledger. -/
lemma Ledger.foldl_writeBuiltin_wrapWidth (settings : Settings) (width : Nat)
    (comparators : List Comparator) {blocks others : List Block}
    (h : List.Forall₂ Block.SameButLayout blocks others) (ledger : Ledger) :
    let written := comparators.foldl (writeBuiltin settings) (blocks, ledger)
    let other := comparators.foldl (writeBuiltin { settings with wrapWidth := width })
      (others, ledger)
    List.Forall₂ Block.SameButLayout written.1 other.1 ∧ other.2 = written.2 := by
  induction comparators generalizing blocks others ledger with
  | nil => exact ⟨h, rfl⟩
  | cons c rest ih =>
    rw [List.foldl_cons, List.foldl_cons, writeBuiltin, writeBuiltin]
    split
    · exact ih h _
    · have hblock := c.sameButLayout_block settings width
      exact ih (List.rel_append h (.cons hblock .nil)) _

namespace Run

lemma guard_feedAll (settings : Settings) (tokens : List String) :
    ((start settings).feedAll tokens).resolve.header.guard = settings.guard := by
  rw [guard_header, feedAll_start]
  rfl

/-- The settings of the runs differ in the width of documentation only, and what they have written
differs in the layout of documentation only. -/
structure SameButLayout (run other : Run) : Prop where
  settings : ∃ width, other.settings = { run.settings with wrapWidth := width }
  ledger : other.ledger = run.ledger
  comparators : List.Forall₂ Block.SameButLayout run.comparators other.comparators
  assertions : List.Forall₂ Block.SameButLayout run.assertions other.assertions

namespace SameButLayout

lemma start (settings : Settings) (width : Nat) :
    (Run.start settings).SameButLayout (Run.start { settings with wrapWidth := width }) :=
  ⟨⟨max width Settings.leastWrapWidth, rfl⟩, rfl, .nil, .nil⟩

variable {run other : Run}

lemma write (h : run.SameButLayout other) (token : String) :
    (run.write (Name.decode token)).SameButLayout (other.write (Name.decode token)) := by
  obtain ⟨width, hsettings⟩ := h.settings
  have hblock : ((Name.decode token).block run.settings).SameButLayout
      ((Name.decode token).block other.settings) := by
    rw [hsettings]
    exact Name.sameButLayout_block run.settings width token
  have hledger : other.ledger.recordAll ((Name.decode token).events other.settings) =
      run.ledger.recordAll ((Name.decode token).events run.settings) := by
    rw [h.ledger, hsettings, Name.events_wrapWidth]
  cases hdecode : Name.decode token with
  | comparator c =>
    rw [hdecode] at hblock hledger
    exact ⟨h.settings, hledger, List.rel_append h.comparators (.cons hblock .nil), h.assertions⟩
  | assertion | unrecognized =>
    rw [hdecode] at hblock hledger
    exact ⟨h.settings, hledger, h.comparators, List.rel_append h.assertions (.cons hblock .nil)⟩

/-- A name that was not written before is written by both runs. -/
lemma feed (h : run.SameButLayout other) (token : String) :
    (run.feed token).2.SameButLayout (other.feed token).2 := by
  rw [Run.feed, Run.feed, h.ledger]
  split
  · exact h
  · exact h.write token

lemma feedAll (h : run.SameButLayout other) (tokens : List String) :
    (run.feedAll tokens).SameButLayout (other.feedAll tokens) := by
  induction tokens generalizing run other with
  | nil => exact h
  | cons token rest ih => exact ih (h.feed token)

lemma resolve (h : run.SameButLayout other) : run.resolve.SameButLayout other.resolve := by
  obtain ⟨width, hsettings⟩ := h.settings
  obtain ⟨hblocks, hledger⟩ := Ledger.foldl_writeBuiltin_wrapWidth run.settings width
    run.ledger.neededBuiltins .nil run.ledger
  rw [Run.resolve, Run.resolve, h.ledger, hsettings]
  exact ⟨⟨width, rfl⟩, hledger, List.rel_append h.comparators hblocks, h.assertions⟩

end SameButLayout

/-! ## Documents -/

open Text Header

/-- **Filling is a matter of layout.**  Change the width of documentation in any settings, and feed
both runs any names.  The two headers have the same guard, note and include lines.  They have as
many comparators and as many assertions, in the same order, and each of them has the same name and
the same definition, and a documentation that says the same.

Each document is put together from these: what stands before the blocks and behind them is the same
text in both. -/
theorem finish_wrapWidth (settings : Settings) (width : Nat) (tokens : List String) :
    let run := (start settings).feedAll tokens
    let other := (start { settings with wrapWidth := width }).feedAll tokens
    let header := run.resolve.header
    let refilled := other.resolve.header
    let opening := unlines ["#ifndef " ++ settings.guard, "#define " ++ settings.guard, ""] ++
      adviceSection header.missing ++ includeSection header.includes
    let closing := line ("#endif /* " ++ settings.guard ++ " */")
    refilled.missing = header.missing ∧
    refilled.includes = header.includes ∧
    List.Forall₂ Block.SameButLayout header.comparators refilled.comparators ∧
    List.Forall₂ Block.SameButLayout header.assertions refilled.assertions ∧
    run.finish = opening ++ blockSection header.comparators ++
      blockSection header.assertions ++ closing ∧
    other.finish = opening ++ blockSection refilled.comparators ++
      blockSection refilled.assertions ++ closing := by
  intro run other header refilled opening closing
  have hruns : run.resolve.SameButLayout other.resolve :=
    ((SameButLayout.start settings width).feedAll tokens).resolve
  have hmissing : refilled.missing = header.missing := congrArg Ledger.unresolved hruns.ledger
  have hincludes : refilled.includes = header.includes := congrArg Ledger.includes hruns.ledger
  have hguard : header.guard = settings.guard := guard_feedAll settings tokens
  have hguard' : refilled.guard = settings.guard := guard_feedAll _ tokens
  refine ⟨hmissing, hincludes, hruns.comparators, hruns.assertions, ?_, ?_⟩
  · show header.render = _
    rw [render, hguard]
  · show refilled.render = _
    rw [render, hguard', hmissing, hincludes]

end Run

end AssertionHeader
