import AssertionHeader.Proofs.Fitting

/-!
# Descriptions stand in one column

A comment is written with a subtraction, that of a name's columns from those of the widest name, and
with a cut, that of the opening from a row of blanks.  `Comment.text?` is the comment with both of
them checked: it has no value where a difference would be negative or a cut out of range.  It always
has a value, the text of the comment (`Comment.text?_eq`).

All that stands between the opening and the closing line is inside the comment, and there it is
aligned (`Comment.IsAligned`): the descriptions of all parameters are laid out from one column, and
the lines on the value from another.  A margin is made as wide as another one in columns of whole
texts.  In sums of the columns of characters the two may differ, but only by the names.
-/

namespace AssertionHeader.Comment

open Text

/-! ## Columns of margins -/

lemma isPlain_spaces (count : Nat) : isPlain (spaces count) = true := by
  simp [isPlain, spaces]

@[simp] lemma columnsOf_spaces (count : Nat) : columnsOf (spaces count) = count := by
  rw [columnsOf_of_isPlain (isPlain_spaces count)]
  simp [spaces]

@[simp] lemma columnsApart_spaces (count : Nat) : columnsApart (spaces count) = count := by
  rw [columnsApart_of_isPlain (isPlain_spaces count)]
  simp [spaces]

lemma spaces_succ (count : Nat) : spaces (count + 1) = " " ++ spaces count := by
  simp [spaces, List.replicate_succ]

/-- Blanks at the end of a text take a column each. -/
lemma columnsOf_append_spaces (text : String) (count : Nat) :
    columnsOf (text ++ spaces count) = columnsOf text + count := by
  cases count with
  | zero => simp [spaces]
  | succ count =>
    rw [spaces_succ, ← String.append_assoc, columnsOf_append_space, columnsOf_spaces]
    omega

lemma columnsOf_paramMargin (columns : Nat) (name : String) :
    columnsOf (paramMargin columns name) = 12 + columnsOf name + (columns - columnsOf name) := by
  have hsplit : paramMargin columns name =
      " * @param" ++ " " ++ (name ++ spaces (columns - columnsOf name) ++ spaces 2) := by
    simp [← String.toList_inj, paramMargin, columnsOf, spaces]
  have hopening : columnsOf " * @param" = 9 := columnsOf_of_isPlain (by decide)
  rw [hsplit, columnsOf_append_space, hopening, columnsOf_append_spaces, columnsOf_append_spaces]
  omega

lemma columnsApart_paramMargin (columns : Nat) (name : String) :
    columnsApart (paramMargin columns name) =
      12 + columnsApart name + (columns - columnsOf name) := by
  have hsplit : paramMargin columns name =
      " * @param " ++ name ++ spaces (columns - columnsOf name) ++ spaces 2 := rfl
  have hopening : columnsApart " * @param " = 10 := by decide
  rw [hsplit, columnsApart_append, columnsApart_append, columnsApart_append, hopening,
    columnsApart_spaces, columnsApart_spaces]
  omega

lemma columnsOf_paramIndent (columns : Nat) (name : String) :
    columnsOf (paramIndent columns name) = columnsOf (paramMargin columns name) := by
  have hopening : columnsOf " *" = 2 := columnsOf_of_isPlain (by decide)
  have hmargin := columnsOf_paramMargin columns name
  rw [paramIndent, columnsOf_append_spaces, hopening]
  change 2 + (columnsOf (paramMargin columns name) - 2) = _
  omega

lemma columnsApart_paramIndent (columns : Nat) (name : String) :
    columnsApart (paramIndent columns name) = columnsOf (paramMargin columns name) := by
  have hopening : columnsApart " *" = 2 := by decide
  have hmargin := columnsOf_paramMargin columns name
  rw [paramIndent, columnsApart_append, columnsApart_spaces, hopening]
  change 2 + (columnsOf (paramMargin columns name) - 2) = _
  omega

/-! ## The widest name -/

/-- The columns of the widest name among the parameters. -/
def widest (measure : String → Nat) (params : List (String × String)) : Nat :=
  (params.map fun param => measure param.1).foldr max 0

lemma widest_columnsOf (params : List (String × String)) :
    widest columnsOf params = nameColumns params :=
  rfl

lemma le_widest {measure : String → Nat} {params : List (String × String)} {param : String × String}
    (h : param ∈ params) : measure param.1 ≤ widest measure params := by
  induction params with
  | nil => cases h
  | cons first rest ih =>
    have hsplit : widest measure (first :: rest) = max (measure first.1) (widest measure rest) :=
      rfl
    rw [hsplit]
    rcases List.mem_cons.1 h with rfl | h
    · exact le_max_left _ _
    · exact (ih h).trans (le_max_right _ _)

lemma widest_congr {measure measure' : String → Nat} {params : List (String × String)}
    (h : ∀ param ∈ params, measure param.1 = measure' param.1) :
    widest measure params = widest measure' params := by
  rw [widest, widest, List.map_congr_left h]

/-! ## The comment with checked operations -/

/-- The difference, unless it is below zero. -/
def sub? (m n : Nat) : Option Nat :=
  if n ≤ m then some (m - n) else none

/-- The text behind the given number of characters, if it has so many. -/
def cut? (count : Nat) (text : String) : Option String :=
  if count ≤ text.length then some (String.ofList (text.toList.drop count)) else none

def paramMargin? (columns : Nat) (name : String) : Option String :=
  (sub? columns (columnsOf name)).map fun gap => " * @param " ++ name ++ spaces gap ++ "  "

/-- A row of blanks as wide as the margin, with the opening of a line in place of the first ones. -/
def paramIndent? (margin : String) : Option String :=
  (cut? emptyLine.length (spaces (columnsOf margin))).map (emptyLine ++ ·)

def paramLines? (limit columns : Nat) (param : String × String) : Option (List String) := do
  let margin ← paramMargin? columns param.1
  let indent ← paramIndent? margin
  return fill limit margin indent param.2

/-- The comment as it is written, if nothing fails. -/
def text? (comment : Comment) (limit : Nat) : Option String := do
  let described ← comment.params.mapM (paramLines? limit (nameColumns comment.params))
  let empty := if comment.params.isEmpty && comment.returns.isEmpty then [] else [emptyLine]
  return unlines ("/**" :: (paragraphLines limit comment.paragraphs ++ empty ++ described.flatten ++
    returnLines comment.returns) ++ [" */"])

lemma paramMargin?_eq {columns : Nat} {name : String} (h : columnsOf name ≤ columns) :
    paramMargin? columns name = some (paramMargin columns name) := by
  rw [paramMargin?, sub?, if_pos h]
  rfl

lemma paramIndent?_eq (columns : Nat) (name : String) :
    paramIndent? (paramMargin columns name) = some (paramIndent columns name) := by
  have hlength : (spaces (columnsOf (paramMargin columns name))).length =
      columnsOf (paramMargin columns name) := by
    simp [spaces]
  have hopening : emptyLine.length = 2 := rfl
  have hinside : emptyLine.length ≤ (spaces (columnsOf (paramMargin columns name))).length := by
    rw [hlength, hopening, columnsOf_paramMargin]
    omega
  rw [paramIndent?, cut?, if_pos hinside, hopening]
  simp [paramIndent, spaces, columnsOf, emptyLine]

lemma paramLines?_eq (limit : Nat) {columns : Nat} {param : String × String}
    (h : columnsOf param.1 ≤ columns) :
    paramLines? limit columns param = some (paramLines limit columns param) := by
  rw [paramLines?, paramMargin?_eq h, Option.bind_eq_bind, Option.bind_some, paramIndent?_eq]
  rfl

/-- Steps of which none fails give all their results. -/
lemma mapM_eq_some {α β : Type} {step : α → Option β} {result : α → β} {items : List α}
    (h : ∀ item ∈ items, step item = some (result item)) :
    items.mapM step = some (items.map result) := by
  induction items with
  | nil => rfl
  | cons first rest ih =>
    rw [List.forall_mem_cons] at h
    rw [List.mapM_cons, h.1, ih h.2]
    rfl

/-- Nothing fails when a comment is written. -/
lemma text?_eq (comment : Comment) (limit : Nat) :
    comment.text? limit = some (comment.text limit) := by
  have hparams : comment.params.mapM (paramLines? limit (nameColumns comment.params)) =
      some (comment.params.map (paramLines limit (nameColumns comment.params))) :=
    mapM_eq_some fun param hparam => paramLines?_eq limit (le_widest hparam)
  rw [text?, hparams]
  rfl

/-! ## The frame -/

/-- The text is a comment on lines of its own, and these are its lines between the first and the
last. -/
structure IsFramed (text : String) (inner : List String) : Prop where
  lines : linesOf text = "/**" :: inner ++ [" */", ""]
  opens : ∀ line ∈ inner, opensWith " *" line = true

lemma IsSingleLine.isFramed {comment : Comment} (h : comment.IsSingleLine) (limit : Nat) :
    IsFramed (comment.text limit) (comment.bodyLines limit) where
  lines := by
    rw [text, linesOf_unlines fun line hline => (h.isLine_and_not_directive hline).1, lines]
    simp
  opens := fun line hline => opensWith_iff.2 (h.isInner hline).margin

/-! ## Alignment -/

/-- The groups of words stand on the lines, each behind a margin of so many columns. -/
def StartsIn (measure : String → Nat) (column : Nat) (lines : List String)
    (groups : List (List String)) : Prop :=
  ∃ first next, lines = linesFor first next groups ∧ measure first = column ∧ measure next = column

/-- The lines on the value are laid out from one column. -/
def AlignsReturns (measure : String → Nat) (comment : Comment) : Prop :=
  ∃ column, StartsIn measure column (returnLines comment.returns)
    (comment.returns.map fun text => [text])

/-- The words of all descriptions are laid out from one column, the first behind two blanks after
the widest name, and the lines on the value from one column too. -/
structure IsAligned (measure : String → Nat) (comment : Comment) (limit : Nat) : Prop where
  params : ∀ param ∈ comment.params, wordsOf param.2 ≠ [] →
    ∃ groups, Divides groups (wordsOf param.2) ∧
      StartsIn measure (12 + widest measure comment.params)
        (paramLines limit (nameColumns comment.params) param) groups
  returns : AlignsReturns measure comment

lemma returnLines_eq_linesFor (returns : List String) :
    returnLines returns =
      linesFor " * @return " " *         " (returns.map fun text => [text]) := by
  cases returns <;> simp [returnLines, linesFor]

/-- Both margins of the lines on the value are plain, so they are equally wide by any measure that
counts the characters of a plain text. -/
lemma alignsReturns {measure : String → Nat}
    (hmeasure : ∀ text, isPlain text = true → measure text = text.length) (comment : Comment) :
    AlignsReturns measure comment := by
  have hfirst : measure " * @return " = 11 := hmeasure _ (by decide)
  have hnext : measure " *         " = 11 := hmeasure _ (by decide)
  exact ⟨11, _, _, returnLines_eq_linesFor comment.returns, hfirst, hnext⟩

lemma alignsReturns_columnsOf (comment : Comment) : AlignsReturns columnsOf comment :=
  alignsReturns (fun _ => columnsOf_of_isPlain) comment

lemma alignsReturns_columnsApart (comment : Comment) : AlignsReturns columnsApart comment :=
  alignsReturns (fun _ => columnsApart_of_isPlain) comment

lemma startsIn_paramLines {measure : String → Nat} {limit columns column : Nat}
    {param : String × String} (hmargin : measure (paramMargin columns param.1) = column)
    (hindent : measure (paramIndent columns param.1) = column) (hwords : wordsOf param.2 ≠ []) :
    ∃ groups, Divides groups (wordsOf param.2) ∧
      StartsIn measure column (paramLines limit columns param) groups := by
  obtain ⟨first, rest, hdivides, hlines⟩ := exists_divides_fill limit
    (paramMargin columns param.1) (paramIndent columns param.1) hwords
  exact ⟨first :: rest, hdivides, _, _, hlines, hmargin, hindent⟩

lemma isAligned_columnsOf (comment : Comment) (limit : Nat) :
    IsAligned columnsOf comment limit where
  params := fun param hparam => by
    have hmargin : columnsOf (paramMargin (nameColumns comment.params) param.1) =
        12 + widest columnsOf comment.params := by
      have hle : columnsOf param.1 ≤ nameColumns comment.params := le_widest hparam
      rw [columnsOf_paramMargin, widest_columnsOf]
      omega
    exact startsIn_paramLines hmargin ((columnsOf_paramIndent _ _).trans hmargin)
  returns := alignsReturns_columnsOf comment

lemma isAligned_columnsApart {comment : Comment} (limit : Nat)
    (h : ∀ param ∈ comment.params, columnsOf param.1 = columnsApart param.1) :
    IsAligned columnsApart comment limit where
  params := fun param hparam => by
    have hle : columnsOf param.1 ≤ nameColumns comment.params := le_widest hparam
    have hwidest : widest columnsApart comment.params = nameColumns comment.params :=
      (widest_congr h).symm
    refine startsIn_paramLines ?_ ?_
    · rw [columnsApart_paramMargin, hwidest, ← h param hparam]
      omega
    · rw [columnsApart_paramIndent, columnsOf_paramMargin, hwidest]
      omega
  returns := alignsReturns_columnsApart comment

/-- **Comments are framed and aligned.**  Nothing fails when a comment is written.  It opens and
closes on lines of its own, between which every line opens as those of a comment do.  The
descriptions of all parameters, and all lines on the value, are aligned.  In the sums of the columns
of characters the lines on the value always are, and the descriptions if each name takes as many
columns as its characters. -/
theorem text_aligned (comment : Comment) (limit : Nat) (h : comment.IsSingleLine) :
    comment.text? limit = some (comment.text limit) ∧
      IsFramed (comment.text limit) (comment.bodyLines limit) ∧
      (∃ front, comment.bodyLines limit =
        front ++ comment.params.flatMap (paramLines limit (nameColumns comment.params)) ++
          returnLines comment.returns) ∧
      IsAligned columnsOf comment limit ∧ AlignsReturns columnsApart comment ∧
      ((∀ param ∈ comment.params, columnsOf param.1 = columnsApart param.1) →
        IsAligned columnsApart comment limit) :=
  ⟨text?_eq comment limit, h.isFramed limit, ⟨_, rfl⟩, isAligned_columnsOf comment limit,
    alignsReturns_columnsApart comment, isAligned_columnsApart limit⟩

theorem text_aligned_wide_name :
    let comment : Comment :=
      { params := [("\u6f22", "the first operand"), ("b", "")], returns := ["zero", "or one"] }
    comment.IsSingleLine ∧ IsFramed (comment.text 20) (comment.bodyLines 20) ∧
      (∀ param ∈ comment.params, columnsOf param.1 = columnsApart param.1) ∧
      IsAligned columnsApart comment 20 := by
  intro comment
  have hsingle : comment.IsSingleLine := ⟨by decide, by decide⟩
  have hnames : ∀ param ∈ comment.params, columnsOf param.1 = columnsApart param.1 := by
    decide +kernel
  obtain ⟨-, hframed, -, -, -, hsums⟩ := text_aligned comment 20 hsingle
  exact ⟨hsingle, hframed, hnames, hsums hnames⟩

/-- A lam and an alef are drawn as one letter, so that a name of these two is padded as one of a
single column. -/
theorem not_isAligned_ligature :
    ¬ IsAligned columnsApart { params := [("\u0644\u0627", "x"), ("ab", "y")] } 78 := by
  intro h
  obtain ⟨groups, hdivides, first, next, hlines, hfirst, -⟩ :=
    h.params ("\u0644\u0627", "x") (by decide) (by decide)
  have hgroups : groups = [["x"]] := by
    have hcount : groups.length = 1 := by
      rw [← length_linesFor first next groups, ← hlines]
      decide +kernel
    obtain ⟨group, rfl⟩ := List.length_eq_one_iff.1 hcount
    have hwords := hdivides.flatten
    rw [List.flatten_singleton] at hwords
    rw [hwords]
    decide
  have hline : first ++ "x" = " * @param \u0644\u0627   x" := by
    have hmodel : paramLines 78 (nameColumns [("\u0644\u0627", "x"), ("ab", "y")])
        ("\u0644\u0627", "x") = [" * @param \u0644\u0627   x"] := by
      decide +kernel
    rw [hgroups] at hlines
    have hsame := hlines.symm.trans hmodel
    simpa [linesFor] using hsame
  have hsum := congrArg columnsApart hline
  rw [columnsApart_append, hfirst] at hsum
  exact absurd hsum (by decide +kernel)

end AssertionHeader.Comment
