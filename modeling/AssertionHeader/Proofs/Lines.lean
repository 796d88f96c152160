import AssertionHeader.Comment
import AssertionHeader.Identifier
import AssertionHeader.Text.Quoted
import Mathlib.Data.List.Infix

/-!
# Lines and directives

That a text lacks a character (`Text.Lacks`) is seen from the parts that it is put together from.
A text is cut into lines at its line feeds.  `Text.HasDirectives text directives` says that a text
consists of whole lines and that, of these, exactly the given ones open with `#`; texts of this kind
can be put one behind the other (`HasDirectives.append`).

What holds of margins and words goes over to the lines that the words fill (`forall_mem_fill`).  So
a documentation comment has no directives, whatever it is about: words are cut at blanks, so that no
line feed gets into a filled line, and every filled line opens with the margin of the comment
(`Comment.IsSingleLine.hasDirectives_text`).
-/

namespace AssertionHeader.Text

/-! ## Characters that a text has not -/

/-- The character does not occur in the text. -/
def Lacks (c : Char) (text : String) : Prop :=
  c ∉ text.toList

instance (c : Char) (text : String) : Decidable (Lacks c text) :=
  inferInstanceAs (Decidable (_ ∉ _))

section

variable {c : Char}

@[simp] lemma lacks_append {s t : String} : Lacks c (s ++ t) ↔ Lacks c s ∧ Lacks c t := by
  simp [Lacks]

lemma lacks_ofList {text : List Char} : Lacks c (String.ofList text) ↔ c ∉ text := by
  rw [Lacks, String.toList_ofList]

lemma lacks_intercalate {separator : String} {items : List String} (hseparator : Lacks c separator)
    (h : ∀ item ∈ items, Lacks c item) : Lacks c (separator.intercalate items) := by
  induction items with
  | nil => simp [Lacks]
  | cons first rest ih =>
    have hfirst : Lacks c first := h first List.mem_cons_self
    have hrest := ih fun item hmem => h item (List.mem_cons_of_mem _ hmem)
    cases rest with
    | nil => rwa [String.intercalate_singleton]
    | cons second others =>
      rw [String.intercalate_cons_cons, lacks_append, lacks_append]
      exact ⟨⟨hfirst, hseparator⟩, hrest⟩

/-- An identifier is made of letters, digits and underscores. -/
lemma lacks_of_isIdentifier (hc : Identifier.isPart c = false) {text : String}
    (h : Identifier.isIdentifier text.toList = true) : Lacks c text := by
  intro hmem
  have hpart := Identifier.isPart_of_mem h hmem
  rw [hc] at hpart
  cases hpart

end

/-! ## Separated pieces -/

/-- All pieces but the last one are closed by the separator. -/
lemma intercalate_concat (separator : List Char) (pieces : List (List Char)) (last : List Char) :
    separator.intercalate (pieces ++ [last]) = pieces.flatMap (· ++ separator) ++ last := by
  induction pieces with
  | nil => simp
  | cons piece rest ih =>
    obtain ⟨next, others, hrest⟩ := List.exists_cons_of_ne_nil (List.concat_ne_nil last rest)
    rw [List.cons_append, hrest, List.intercalate_cons_cons, ← hrest, ih, List.flatMap_cons]
    simp

/-! ## Single lines -/

/-- The text has no line feed. -/
def IsLine (text : String) : Prop :=
  '\n' ∉ text.toList

instance (text : String) : Decidable (IsLine text) :=
  inferInstanceAs (Decidable (_ ∉ _))

@[simp] lemma isLine_append {s t : String} : IsLine (s ++ t) ↔ IsLine s ∧ IsLine t :=
  lacks_append

lemma isLine_ofList {text : List Char} : IsLine (String.ofList text) ↔ '\n' ∉ text :=
  lacks_ofList

lemma isLine_intercalate {separator : String} {items : List String} (hseparator : IsLine separator)
    (h : ∀ item ∈ items, IsLine item) : IsLine (separator.intercalate items) :=
  lacks_intercalate hseparator h

lemma isLine_of_isIdentifier {text : String} (h : Identifier.isIdentifier text.toList = true) :
    IsLine text :=
  lacks_of_isIdentifier (by decide) h

/-! ## Literals -/

/-- What is quoted between the quotes of a literal. -/
def unescape : List Char → List Char
  | '\\' :: 'n' :: rest => '\n' :: unescape rest
  | '\\' :: c :: rest => c :: unescape rest
  | c :: rest => c :: unescape rest
  | [] => []

lemma unescape_escapeChar (c : Char) (rest : List Char) :
    unescape (escapeChar c ++ rest) = c :: unescape rest := by
  unfold escapeChar
  split
  · rfl
  · rfl
  · rfl
  · next hslash _ =>
    rw [List.singleton_append, unescape]
    · intro _ hc
      exact absurd hc hslash
    · intro _ _ hc
      exact absurd hc hslash

lemma unescape_escape (text : List Char) : unescape (escape text) = text := by
  induction text with
  | nil => rfl
  | cons c rest ih =>
    have hsplit : escape (c :: rest) = escapeChar c ++ escape rest := rfl
    rw [hsplit, unescape_escapeChar, ih]

/-- Different texts have different literals. -/
lemma quote_injective : Function.Injective quote := by
  intro s t h
  have hescape : escape s.toList = escape t.toList := by
    simpa [quote, ← String.toList_inj] using h
  rw [← String.toList_inj, ← unescape_escape s.toList, hescape, unescape_escape]

/-- A literal stays on its line, whatever it quotes. -/
lemma isLine_quote (text : String) : IsLine (quote text) := by
  have hescape : '\n' ∉ escape text.toList := by
    intro hmem
    obtain ⟨c, -, hc⟩ := List.mem_flatMap.1 hmem
    by_cases hfeed : c = '\n'
    · subst hfeed
      exact absurd hc (by decide)
    · unfold escapeChar at hc
      split at hc
      · exact absurd hc (by decide)
      · exact absurd hc (by decide)
      · exact absurd hc (by decide)
      · exact hfeed (List.mem_singleton.1 hc).symm
  have hquote : IsLine "\"" := by decide
  rw [quote, isLine_append, isLine_append]
  exact ⟨⟨hquote, isLine_ofList.2 hescape⟩, hquote⟩

/-! ## Cutting a text into lines -/

/-- The lines of a text.  What follows the last line feed is a line too. -/
def linesOf (text : String) : List String :=
  (text.toList.splitOn '\n').map String.ofList

lemma linesOf_unlines_append {lines : List String} (h : ∀ line ∈ lines, IsLine line)
    (rest : String) : linesOf (unlines lines ++ rest) = lines ++ linesOf rest := by
  induction lines with
  | nil => simp [linesOf]
  | cons first others ih =>
    have hfirst : '\n' ∉ first.toList := h first List.mem_cons_self
    have htail := ih fun line hmem => h line (List.mem_cons_of_mem _ hmem)
    have htext : (unlines (first :: others) ++ rest).toList =
        first.toList ++ '\n' :: (unlines others ++ rest).toList := by
      simp
    rw [linesOf, htext, List.splitOn_append_cons_self_of_not_mem hfirst, List.map_cons,
      String.ofList_toList, List.cons_append, ← htail]
    rfl

lemma linesOf_unlines {lines : List String} (h : ∀ line ∈ lines, IsLine line) :
    linesOf (unlines lines) = lines ++ [""] := by
  have hempty : linesOf "" = [""] := by decide
  rw [← hempty, ← linesOf_unlines_append h, String.append_empty]

/-! ## Directives -/

/-- Whether a line opens with the given word. -/
def opensWith (word line : String) : Bool :=
  word.toList.isPrefixOf line.toList

/-- A line that opens with `#` is read by the preprocessor. -/
def isDirective (line : String) : Bool :=
  opensWith "#" line

lemma opensWith_iff {word line : String} :
    opensWith word line = true ↔ word.toList <+: line.toList :=
  List.isPrefixOf_iff_prefix

lemma isDirective_of_opensWith {word line : String} (hword : isDirective word = true)
    (h : opensWith word line = true) : isDirective line = true :=
  opensWith_iff.2 ((opensWith_iff.1 hword).trans (opensWith_iff.1 h))

/-- Directives of one kind are found among all directives. -/
lemma filter_opensWith {word : String} (hword : isDirective word = true) (lines : List String) :
    lines.filter (opensWith word) = (lines.filter isDirective).filter (opensWith word) := by
  rw [List.filter_filter]
  refine List.filter_congr fun line _ => ?_
  by_cases hopens : opensWith word line = true
  · rw [hopens, isDirective_of_opensWith hword hopens, Bool.and_self]
  · rw [Bool.not_eq_true] at hopens
    rw [hopens, Bool.false_and]

/-- The text consists of whole lines.  Of these, those that open with `#` are the given ones, in
their order. -/
def HasDirectives (text : String) (directives : List String) : Prop :=
  ∃ lines, text = unlines lines ∧ (∀ line ∈ lines, IsLine line) ∧
    lines.filter isDirective = directives

namespace HasDirectives

variable {s t : String} {first second : List String}

lemma append (hs : HasDirectives s first) (ht : HasDirectives t second) :
    HasDirectives (s ++ t) (first ++ second) := by
  obtain ⟨lines, rfl, hlines, rfl⟩ := hs
  obtain ⟨lines', rfl, hlines', rfl⟩ := ht
  refine ⟨lines ++ lines', (unlines_append _ _).symm, fun line hmem => ?_, List.filter_append ..⟩
  exact (List.mem_append.1 hmem).elim (hlines line) (hlines' line)

lemma empty : HasDirectives "" [] :=
  ⟨[], rfl, by simp, rfl⟩

lemma of_lines {lines directives : List String} (h : ∀ line ∈ lines, IsLine line)
    (hfilter : lines.filter isDirective = directives) :
    HasDirectives (unlines lines) directives :=
  ⟨lines, rfl, h, hfilter⟩

lemma of_directive {directive : String} (h : IsLine directive)
    (hdirective : isDirective directive = true) : HasDirectives (line directive) [directive] := by
  rw [← unlines_singleton]
  refine of_lines (List.forall_mem_singleton.2 h) ?_
  rw [List.filter_cons_of_pos hdirective, List.filter_nil]

lemma of_line {text : String} (h : IsLine text) (hdirective : isDirective text = false) :
    HasDirectives (line text) [] := by
  rw [← unlines_singleton]
  refine of_lines (List.forall_mem_singleton.2 h) ?_
  rw [List.filter_cons_of_neg (by simp [hdirective]), List.filter_nil]

/-- Lines of which none is a directive. -/
lemma unlines_nil {lines : List String}
    (h : ∀ line ∈ lines, IsLine line ∧ isDirective line = false) :
    HasDirectives (unlines lines) [] := by
  have hnone : lines.filter isDirective = [] :=
    List.filter_eq_nil_iff.2 fun line hmem => by simp [(h line hmem).2]
  exact ⟨lines, rfl, fun line hmem => (h line hmem).1, hnone⟩

/-- Texts one behind the other. -/
lemma join {α : Type} {items : List α} {text : α → String} {directives : α → List String}
    (h : ∀ item ∈ items, HasDirectives (text item) (directives item)) :
    HasDirectives (String.join (items.map text)) (items.flatMap directives) := by
  induction items with
  | nil => exact empty
  | cons item rest ih =>
    have hrest := ih fun other hmem => h other (List.mem_cons_of_mem _ hmem)
    rw [List.map_cons, String.join_cons, List.flatMap_cons]
    exact (h item List.mem_cons_self).append hrest

end HasDirectives

/-! ## Filled text -/

/-- The line stands inside a comment. -/
structure IsInner (line : List Char) : Prop where
  margin : " *".toList <+: line
  isLine : '\n' ∉ line

lemma IsInner.append {line text : List Char} (h : IsInner line) (htext : '\n' ∉ text) :
    IsInner (line ++ text) where
  margin := h.margin.trans (List.prefix_append _ _)
  isLine := by
    rw [List.mem_append, not_or]
    exact ⟨h.isLine, htext⟩

lemma IsInner.isLine_and_not_directive {line : List Char} (h : IsInner line) :
    IsLine (String.ofList line) ∧ isDirective (String.ofList line) = false := by
  obtain ⟨rest, rfl⟩ := h.margin
  exact ⟨isLine_ofList.2 h.isLine, by simp [isDirective, opensWith, List.isPrefixOf]⟩

/-- The pieces of a split have the characters of the text, apart from those that are split on. -/
lemma mem_splitOnP {p : Char → Bool} {text piece : List Char} (h : piece ∈ text.splitOnP p) :
    ∀ c ∈ piece, c ∈ text ∧ p c = false := by
  induction text generalizing piece with
  | nil =>
    rw [List.splitOnP_nil, List.mem_singleton] at h
    simp [h]
  | cons first rest ih =>
    have hrest : ∀ {other}, other ∈ rest.splitOnP p →
        ∀ c ∈ other, c ∈ first :: rest ∧ p c = false :=
      fun hother c hc => ⟨List.mem_cons_of_mem _ (ih hother c hc).1, (ih hother c hc).2⟩
    rw [List.splitOnP_cons_eq_if_modifyHead] at h
    by_cases hfirst : p first = true
    · rw [if_pos hfirst, List.mem_cons] at h
      rcases h with rfl | h
      · simp
      · exact hrest h
    · rw [if_neg hfirst] at h
      obtain ⟨head, tail, hsplit⟩ := List.exists_cons_of_ne_nil (List.splitOnP_ne_nil p rest)
      rw [hsplit, List.modifyHead_cons, List.mem_cons] at h
      rcases h with rfl | h
      · intro c hc
        rcases List.mem_cons.1 hc with rfl | hc
        · exact ⟨List.mem_cons_self, Bool.not_eq_true _ ▸ hfirst⟩
        · exact hrest (hsplit ▸ List.mem_cons_self) c hc
      · exact hrest (hsplit ▸ List.mem_cons_of_mem _ h)

/-- Words have the characters of the text, apart from blanks. -/
lemma mem_words {text word : List Char} (h : word ∈ words text) :
    ∀ c ∈ word, c ∈ text ∧ isBlank c = false :=
  mem_splitOnP (List.mem_of_mem_filter h)

lemma mem_of_mem_trimEnd {text : List Char} {c : Char} (h : c ∈ trimEnd text) : c ∈ text := by
  rw [trimEnd, List.mem_reverse] at h
  exact List.mem_reverse.1 (List.dropWhile_subset _ h)

/-- What opens a text and ends in no blank still opens it when its end is trimmed. -/
lemma prefix_trimEnd {opening text : List Char} {c : Char} (hc : isBlank c = false)
    (h : opening ++ [c] <+: text) : opening ++ [c] <+: trimEnd text := by
  obtain ⟨rest, rfl⟩ := h
  have hreverse : (opening ++ [c] ++ rest).reverse = rest.reverse ++ c :: opening.reverse := by
    simp
  have hkeep : (c :: opening.reverse).dropWhile isBlank = c :: opening.reverse := by
    simp [hc]
  rw [trimEnd, hreverse, List.dropWhile_append, hkeep]
  split
  · simp
  · simp

lemma IsInner.trimEnd {line : List Char} (h : IsInner line) : IsInner (trimEnd line) where
  margin := @prefix_trimEnd [' '] line '*' (by decide) h.margin
  isLine := mt mem_of_mem_trimEnd h.isLine

section

variable {holds : List Char → Prop}

lemma forall_mem_fillFrom {limit : Nat} {margin line : List Char} {words : List (List Char)}
    (hmargin : holds margin) (hline : holds line)
    (hjoin : ∀ line, holds line → ∀ word ∈ words,
      holds (line ++ word) ∧ holds (line ++ ' ' :: word)) :
    ∀ filled ∈ fillFrom limit margin line words, holds filled := by
  induction words generalizing line with
  | nil => simpa [fillFrom] using hline
  | cons word rest ih =>
    have hrest : ∀ line, holds line → ∀ other ∈ rest,
        holds (line ++ other) ∧ holds (line ++ ' ' :: other) :=
      fun line hline other hmem => hjoin line hline other (List.mem_cons_of_mem _ hmem)
    rw [fillFrom]
    split
    · exact ih (hjoin line hline word List.mem_cons_self).2 hrest
    · intro filled hmem
      rcases List.mem_cons.1 hmem with rfl | hmem
      · exact hline
      · exact ih (hjoin margin hmargin word List.mem_cons_self).1 hrest filled hmem

/-- What holds of both margins, and goes on to hold when words join a line and when its end is
trimmed, holds of all filled lines. -/
lemma forall_mem_fill {limit : Nat} {firstMargin margin text line : String}
    (hfirst : holds firstMargin.toList) (hmargin : holds margin.toList)
    (htrim : ∀ line, holds line → holds (trimEnd line))
    (hjoin : ∀ line, holds line → ∀ word ∈ words text.toList,
      holds (line ++ word) ∧ holds (line ++ ' ' :: word))
    (h : line ∈ fill limit firstMargin margin text) : holds line.toList := by
  obtain ⟨filled, hfilled, rfl⟩ := List.mem_map.1 h
  rw [String.toList_ofList]
  cases hlist : words text.toList with
  | nil =>
    rw [hlist, fillWords, List.mem_singleton] at hfilled
    exact hfilled ▸ htrim _ hfirst
  | cons word rest =>
    rw [hlist] at hfilled hjoin
    refine forall_mem_fillFrom hmargin (hjoin _ hfirst word List.mem_cons_self).1 ?_ filled hfilled
    exact fun line hline other hmem => hjoin line hline other (List.mem_cons_of_mem _ hmem)

end

/-- Filled lines stay inside the comment that their margins belong to. -/
lemma isInner_of_mem_fill {limit : Nat} {firstMargin margin text line : String}
    (hfirst : IsInner firstMargin.toList) (hmargin : IsInner margin.toList)
    (h : line ∈ fill limit firstMargin margin text) : IsInner line.toList := by
  refine forall_mem_fill hfirst hmargin (fun _ => IsInner.trimEnd) ?_ h
  intro line hline word hword
  have hfeed : '\n' ∉ word := fun hmem => absurd (mem_words hword _ hmem).2 (by decide)
  exact ⟨hline.append hfeed, hline.append (by simp [hfeed])⟩

/-- Filled lines have the characters of the margins and the text, and blanks. -/
lemma lacks_of_mem_fill {c : Char} (hc : c ≠ ' ') {limit : Nat}
    {firstMargin margin text line : String} (hfirst : Lacks c firstMargin)
    (hmargin : Lacks c margin) (htext : Lacks c text)
    (h : line ∈ fill limit firstMargin margin text) : Lacks c line := by
  have hfilled : c ∉ line.toList := by
    refine @forall_mem_fill (c ∉ ·) limit firstMargin margin text line hfirst hmargin
      (fun _ => mt mem_of_mem_trimEnd) ?_ h
    intro line hline word hword
    have hnone : c ∉ word := fun hmem => htext (mem_words hword c hmem).1
    simp [hline, hnone, hc]
  exact hfilled

end AssertionHeader.Text

/-! ## Comments -/

namespace AssertionHeader.Comment

open Text

lemma isInner_emptyLine : IsInner emptyLine.toList :=
  ⟨by decide, by decide⟩

lemma isInner_margin : IsInner margin.toList :=
  ⟨by decide, by decide⟩

lemma lacks_spaces {c : Char} (hc : c ≠ ' ') (count : Nat) : Lacks c (spaces count) := by
  rw [spaces, lacks_ofList]
  exact fun hmem => hc (List.eq_of_mem_replicate hmem)

lemma isInner_paramMargin {name : String} (hname : IsLine name) (columns : Nat) :
    IsInner (paramMargin columns name).toList := by
  have hspaces : IsLine (spaces (columns - width name.toList)) := lacks_spaces (by decide) _
  have hopening : IsInner " * @param ".toList := ⟨by decide, by decide⟩
  have htext : (paramMargin columns name).toList = " * @param ".toList ++
      (name.toList ++ ((spaces (columns - width name.toList)).toList ++ "  ".toList)) := by
    simp [paramMargin]
  rw [htext]
  refine hopening.append ?_
  rw [List.mem_append, List.mem_append, not_or, not_or]
  exact ⟨hname, hspaces, by decide⟩

lemma isInner_paramIndent (columns : Nat) (name : String) :
    IsInner (paramIndent columns name).toList := by
  have hopening : IsInner " *".toList := ⟨by decide, by decide⟩
  rw [paramIndent, String.toList_append]
  exact hopening.append (lacks_spaces (by decide) _)

lemma mem_paragraphLines {limit : Nat} {paragraphs : List String} {line : String}
    (h : line ∈ paragraphLines limit paragraphs) :
    line = emptyLine ∨ ∃ text ∈ paragraphs, line ∈ fill limit margin margin text := by
  unfold paragraphLines at h
  induction paragraphs with
  | nil => simp at h
  | cons first rest ih =>
    cases rest with
    | nil => exact .inr ⟨first, List.mem_cons_self, by simpa using h⟩
    | cons second others =>
      rw [List.map_cons, List.map_cons, List.intercalate_cons_cons, List.mem_append,
        List.mem_append] at h
      rcases h with (h | h) | h
      · exact .inr ⟨first, List.mem_cons_self, h⟩
      · exact .inl (List.mem_singleton.1 h)
      · refine (ih h).imp_right ?_
        rintro ⟨text, htext, hline⟩
        exact ⟨text, List.mem_cons_of_mem _ htext, hline⟩

/-- What stands between the opening and the closing line of a comment. -/
lemma mem_bodyLines {comment : Comment} {limit : Nat} {line : String}
    (h : line ∈ comment.bodyLines limit) :
    line = emptyLine ∨ (∃ text ∈ comment.paragraphs, line ∈ fill limit margin margin text) ∨
      (∃ param ∈ comment.params, line ∈ paramLines limit (nameColumns comment.params) param) ∨
      line ∈ returnLines comment.returns := by
  simp only [bodyLines, List.mem_append, List.mem_flatMap] at h
  rcases h with ((h | h) | h) | h
  · exact (mem_paragraphLines h).imp_right .inl
  · split at h
    · cases h
    · exact .inl (List.mem_singleton.1 h)
  · exact .inr (.inr (.inl h))
  · exact .inr (.inr (.inr h))

lemma mem_returnLines {returns : List String} {line : String} (h : line ∈ returnLines returns) :
    ∃ text ∈ returns, line = " * @return " ++ text ∨ line = " *         " ++ text := by
  cases returns with
  | nil => cases h
  | cons first rest =>
    rcases List.mem_cons.1 h with rfl | h
    · exact ⟨first, List.mem_cons_self, .inl rfl⟩
    · obtain ⟨text, htext, rfl⟩ := List.mem_map.1 h
      exact ⟨text, List.mem_cons_of_mem _ htext, .inr rfl⟩

lemma isInner_of_mem_returnLines {returns : List String} {line : String}
    (hreturns : ∀ text ∈ returns, IsLine text) (h : line ∈ returnLines returns) :
    IsInner line.toList := by
  have hopening : IsInner " * @return ".toList := ⟨by decide, by decide⟩
  have hindent : IsInner " *         ".toList := ⟨by decide, by decide⟩
  obtain ⟨text, htext, rfl | rfl⟩ := mem_returnLines h
  · rw [String.toList_append]
    exact hopening.append (hreturns text htext)
  · rw [String.toList_append]
    exact hindent.append (hreturns text htext)

/-- The texts of the comment that are not filled have no line feeds. -/
structure IsSingleLine (comment : Comment) : Prop where
  params : ∀ param ∈ comment.params, IsLine param.1
  returns : ∀ text ∈ comment.returns, IsLine text

namespace IsSingleLine

variable {comment : Comment} (h : comment.IsSingleLine)

include h

/-- What stands between the opening and the closing line is inside the comment, whatever the
paragraphs and descriptions say. -/
lemma isInner {limit : Nat} {line : String} (hline : line ∈ comment.bodyLines limit) :
    IsInner line.toList := by
  rcases mem_bodyLines hline with rfl | ⟨text, -, hline⟩ | ⟨param, hparam, hline⟩ | hline
  · exact isInner_emptyLine
  · exact isInner_of_mem_fill isInner_margin isInner_margin hline
  · exact isInner_of_mem_fill (isInner_paramMargin (h.params param hparam) _)
      (isInner_paramIndent _ _) hline
  · exact isInner_of_mem_returnLines h.returns hline

lemma isLine_and_not_directive {limit : Nat} {line : String} (hline : line ∈ comment.lines limit) :
    IsLine line ∧ isDirective line = false := by
  rw [lines, List.cons_append, List.mem_cons, List.mem_append, List.mem_singleton] at hline
  rcases hline with rfl | hline | rfl
  · decide
  · have hinner := (h.isInner hline).isLine_and_not_directive
    rwa [String.ofList_toList] at hinner
  · decide

/-- A comment has no directives, whatever its paragraphs and descriptions say. -/
lemma hasDirectives_text (limit : Nat) : HasDirectives (comment.text limit) [] :=
  HasDirectives.unlines_nil fun _ => h.isLine_and_not_directive

end IsSingleLine

end AssertionHeader.Comment
