import AssertionHeader.Proofs.Filling
import AssertionHeader.Text.Width.Lemmas
import Mathlib.Algebra.GroupWithZero.Nat

/-!
# Filled lines fit, and are as few as can be

The lines of a filled text are a layout of its words (`IsLayout`): every line stays within the limit
or carries a single word.  They are tight (`IsTight`): no line has room for the word that the next
one opens with.  And no layout of the same words behind the same margins has fewer lines.

The last statement is proved by comparing two fills of the same words that differ in the line that
they start with (`length_fillLine_le`).  The one that has closed fewer lines, or as many and has the
narrower line, stays ahead; a line that it closes in excess is paid for by its lead.

Columns are those of a line as a whole (`columnsOf`).  They are not always the sum of the columns
that its characters take apart (`columnsApart`), and a margin may take fewer columns before one word
than before another.  A margin that does so by no more than a blank takes is steady, and only behind
a steady margin are the lines as few as can be.
-/

namespace AssertionHeader.Text

/-! ## Columns -/

/-- The columns that a text takes as a whole. -/
def columnsOf (text : String) : Nat :=
  width text.toList

/-- The columns that the characters of a text take if each stands alone. -/
def columnsApart (text : String) : Nat :=
  (text.toList.map columns).sum

lemma columnsOf_append_space (s t : String) :
    columnsOf (s ++ " " ++ t) = columnsOf s + 1 + columnsOf t := by
  simpa [columnsOf] using width_append_space s.toList t.toList

lemma append_intercalate_cons_cons (front first second : String) (rest : List String) :
    front ++ " ".intercalate (first :: second :: rest) =
      front ++ first ++ " " ++ " ".intercalate (second :: rest) := by
  simp only [String.intercalate_cons_cons, String.append_assoc]

lemma columnsOf_le_intercalate (front word : String) (rest : List String) :
    columnsOf (front ++ word) ≤ columnsOf (front ++ " ".intercalate (word :: rest)) := by
  cases rest with
  | nil => simp
  | cons next others =>
    rw [append_intercalate_cons_cons, columnsOf_append_space]
    omega

lemma columnsApart_append (s t : String) :
    columnsApart (s ++ t) = columnsApart s + columnsApart t := by
  simp [columnsApart]

/-- The text is made of these characters. -/
def Uses (characters text : String) : Prop :=
  text.toList ⊆ characters.toList

/-- Texts of these characters take the columns of their characters: none of them shares columns with
another. -/
def StandApart (characters : String) : Prop :=
  ∀ text : String, Uses characters text → columnsOf text = columnsApart text

/-- All characters of the text are from the blank up to U+00A0. -/
def isPlain (text : String) : Bool :=
  text.toList.all fun c => decide (0x20 ≤ c.toNat ∧ c.toNat ≤ 0xA0)

lemma isPlain_iff {text : String} :
    isPlain text = true ↔ ∀ c ∈ text.toList, 0x20 ≤ c.toNat ∧ c.toNat ≤ 0xA0 := by
  simp [isPlain]

lemma columnsOf_of_isPlain {text : String} (h : isPlain text = true) :
    columnsOf text = text.length :=
  width_eq_length (isPlain_iff.1 h)

lemma columnsApart_of_isPlain {text : String} (h : isPlain text = true) :
    columnsApart text = text.length := by
  have hcolumns : ∀ c ∈ text.toList, columns c = 1 :=
    fun c hc => columns_of_le (isPlain_iff.1 h c hc).2
  rw [columnsApart, List.map_congr_left hcolumns]
  simp [String.length_toList]

/-- Characters from the blank up to U+00A0 stand apart. -/
lemma StandApart.of_isPlain {characters : String} (h : isPlain characters = true) :
    StandApart characters := by
  intro text huses
  have htext : isPlain text = true := isPlain_iff.2 fun c hc => isPlain_iff.1 h c (huses hc)
  rw [columnsOf_of_isPlain htext, columnsApart_of_isPlain htext]

/-- Before no word does the margin take more columns than it takes together with another word and a
blank. -/
def IsSteady (margin : String) (words : List String) : Prop :=
  ∀ u ∈ words, ∀ v ∈ words, columnsOf (margin ++ v) ≤ columnsOf (margin ++ u) + 1 + columnsOf v

namespace IsSteady

variable {margin : String} {words : List String}

lemma of_cons {word : String} (h : IsSteady margin (word :: words)) : IsSteady margin words :=
  fun u hu v hv => h u (List.mem_cons_of_mem _ hu) v (List.mem_cons_of_mem _ hv)

lemma of_append_right {others : List String} (h : IsSteady margin (others ++ words)) :
    IsSteady margin words :=
  fun u hu v hv => h u (List.mem_append_right _ hu) v (List.mem_append_right _ hv)

/-- A margin is steady before words with which it shares no columns. -/
lemma of_add (h : ∀ word ∈ words, columnsOf (margin ++ word) = columnsOf margin + columnsOf word) :
    IsSteady margin words := by
  intro u hu v hv
  rw [h u hu, h v hv]
  omega

/-- A margin that ends in a blank is steady. -/
lemma append_space (margin : String) (words : List String) : IsSteady (margin ++ " ") words := by
  refine of_add fun word _ => ?_
  have hend := columnsOf_append_space margin ""
  have hnone : columnsOf "" = 0 := rfl
  rw [String.append_empty, hnone] at hend
  rw [columnsOf_append_space, hend]

end IsSteady

/-! ## Layouts -/

/-- The lines that groups of words stand on, the first one behind a margin of its own. -/
def linesFor (firstMargin margin : String) : List (List String) → List String
  | [] => []
  | first :: rest =>
    (firstMargin ++ " ".intercalate first) :: rest.map (margin ++ " ".intercalate ·)

/-- The groups, on the lines behind these margins, lay out the words: none of them is empty, and
every line stays within the limit or carries a single word. -/
inductive IsLayout (measure : String → Nat) (limit : Nat) :
    (firstMargin margin : String) → (groups : List (List String)) → (words : List String) → Prop
  | nil {firstMargin margin : String} : IsLayout measure limit firstMargin margin [] []
  | cons {firstMargin margin : String} {group : List String} {groups : List (List String)}
      {words : List String} (hne : group ≠ [])
      (hfits : measure (firstMargin ++ " ".intercalate group) ≤ limit ∨ group.length = 1)
      (hrest : IsLayout measure limit margin margin groups words) :
      IsLayout measure limit firstMargin margin (group :: groups) (group ++ words)

/-- No line has room for a blank and the word that the next line opens with. -/
def IsTight (measure : String → Nat) (limit : Nat) (firstMargin margin : String) :
    List (List String) → Prop
  | first :: second :: rest =>
    (∀ word ∈ second.head?, limit < measure (firstMargin ++ " ".intercalate first ++ " " ++ word)) ∧
      IsTight measure limit margin margin (second :: rest)
  | [] | [_] => True

/-- The groups are a tight layout of the words, and no layout of them has fewer lines. -/
structure IsOptimal (measure : String → Nat) (limit : Nat) (firstMargin margin : String)
    (groups : List (List String)) (words : List String) : Prop where
  layout : IsLayout measure limit firstMargin margin groups words
  tight : IsTight measure limit firstMargin margin groups
  least : ∀ others, IsLayout measure limit firstMargin margin others words →
    groups.length ≤ others.length

@[simp] lemma length_linesFor (firstMargin margin : String) (groups : List (List String)) :
    (linesFor firstMargin margin groups).length = groups.length := by
  cases groups <;> simp [linesFor]

lemma linesFor_cons (firstMargin margin : String) (first : List String)
    (rest : List (List String)) :
    linesFor firstMargin margin (first :: rest) =
      (firstMargin ++ " ".intercalate first) :: linesFor margin margin rest := by
  cases rest <;> rfl

namespace IsLayout

variable {measure : String → Nat} {limit : Nat} {firstMargin margin : String}
  {groups : List (List String)} {words : List String}

lemma divides (h : IsLayout measure limit firstMargin margin groups words) :
    Divides groups words := by
  induction h with
  | nil => exact ⟨rfl, by simp⟩
  | cons hne _ _ ih => exact ih.cons hne

lemma exists_rest {group : List String}
    (h : IsLayout measure limit firstMargin margin (group :: groups) words) :
    ∃ rest, words = group ++ rest ∧ group ≠ [] ∧
      (measure (firstMargin ++ " ".intercalate group) ≤ limit ∨ group.length = 1) ∧
      IsLayout measure limit margin margin groups rest := by
  cases h with
  | cons hne hfits hrest => exact ⟨_, rfl, hne, hfits, hrest⟩

/-- What fits fits in more columns. -/
lemma mono (h : IsLayout measure limit firstMargin margin groups words) {wider : Nat}
    (hle : limit ≤ wider) : IsLayout measure wider firstMargin margin groups words := by
  induction h with
  | nil => exact .nil
  | cons hne hfits _ ih => exact .cons hne (hfits.imp_left (·.trans hle)) ih

end IsLayout

/-! ## The fill of a line -/

/-- The lines that a line grows into as words follow it. -/
def fillLine (limit : Nat) (margin line : String) (words : List String) : List String :=
  (fillFrom limit margin.toList line.toList (words.map String.toList)).map String.ofList

section

variable {limit : Nat} {margin line : String} {words : List String}

@[simp] lemma fillLine_nil : fillLine limit margin line [] = [line] := by
  simp [fillLine, fillFrom]

lemma fillLine_cons (word : String) :
    fillLine limit margin line (word :: words) =
      if columnsOf line + 1 + columnsOf word ≤ limit then
        fillLine limit margin (line ++ " " ++ word) words
      else line :: fillLine limit margin (margin ++ word) words := by
  rw [fillLine, List.map_cons, fillFrom, apply_ite (List.map String.ofList)]
  congr 1 <;> simp [fillLine]

lemma fill_eq_fillLine (limit : Nat) (firstMargin margin : String) {text word : String}
    (h : wordsOf text = word :: words) :
    fill limit firstMargin margin text = fillLine limit margin (firstMargin ++ word) words := by
  have hwords : Text.words text.toList = word.toList :: words.map String.toList := by
    have hlists := congrArg (List.map String.toList) h
    simpa [wordsOf, Function.comp_def] using hlists
  simp [fill, hwords, fillWords, fillLine]

end

/-! ## Lines fit and have no room left -/

lemma intercalate_concat_string {group : List String} (hne : group ≠ []) (word : String) :
    " ".intercalate (group ++ [word]) = " ".intercalate group ++ " " ++ word := by
  have hchars := @intercalate_concat_word (group.map String.toList) (by simpa using hne) word.toList
  simpa [← String.toList_inj, String.toList_intercalate] using hchars

/-- The fill is a tight layout, if the line that it starts with fits or carries a single word. -/
lemma exists_layout_fillLine (limit : Nat) (margin front : String) {group : List String}
    (hne : group ≠ [])
    (hfits : columnsOf (front ++ " ".intercalate group) ≤ limit ∨ group.length = 1)
    (words : List String) :
    ∃ groups, fillLine limit margin (front ++ " ".intercalate group) words =
        linesFor front margin groups ∧
      IsLayout columnsOf limit front margin groups (group ++ words) ∧
      IsTight columnsOf limit front margin groups := by
  induction words generalizing front group with
  | nil => exact ⟨[group], by simp [linesFor], .cons hne hfits .nil, trivial⟩
  | cons word others ih =>
    rw [fillLine_cons]
    split
    · next hroom =>
      -- The word joins the group of the line.
      have hgrown : front ++ " ".intercalate group ++ " " ++ word =
          front ++ " ".intercalate (group ++ [word]) := by
        rw [intercalate_concat_string hne]
        simp only [String.append_assoc]
      have hfits' : columnsOf (front ++ " ".intercalate (group ++ [word])) ≤ limit := by
        rwa [← hgrown, columnsOf_append_space]
      obtain ⟨groups, hlines, hlayout, htight⟩ := ih front (by simp) (.inl hfits')
      rw [List.append_assoc, List.singleton_append] at hlayout
      exact ⟨groups, hgrown ▸ hlines, hlayout, htight⟩
    · next hroom =>
      -- The group of the line is complete, and the word begins the next one.
      obtain ⟨groups, hlines, hlayout, htight⟩ := @ih margin [word] (by simp) (.inr rfl)
      rw [String.intercalate_singleton] at hlines
      refine ⟨group :: groups, by rw [hlines, linesFor_cons], .cons hne hfits hlayout, ?_⟩
      obtain _ | ⟨next, rest⟩ := groups
      · trivial
      · refine ⟨fun first hfirst => ?_, htight⟩
        obtain rfl : first = word := by
          have hnext : next ≠ [] := hlayout.divides.ne_nil next List.mem_cons_self
          have hhead := congrArg List.head? hlayout.divides.flatten
          rw [List.flatten_cons, List.head?_append_of_ne_nil _ hnext] at hhead
          exact Option.some.inj (hfirst.symm.trans hhead)
        rw [columnsOf_append_space]
        exact Nat.lt_of_not_le hroom

/-! ## No layout has fewer lines -/

/-- Of two fills of the same words, the one whose line is no wider has no more lines.  A fill that
leads by a line may start with any line: it falls back where the other one still has room for a
word, but then the word opens a line that is no wider than the other one. -/
lemma length_fillLine_le {limit lead : Nat} {margin line other : String} {words : List String}
    (hsteady : IsSteady margin words)
    (h : columnsOf line ≤ columnsOf other ∨
      0 < lead ∧
        ∀ word ∈ words, columnsOf (margin ++ word) ≤ columnsOf other + 1 + columnsOf word) :
    (fillLine limit margin line words).length ≤
      lead + (fillLine limit margin other words).length := by
  induction words generalizing lead line other with
  | nil => simp
  | cons word others ih =>
    have hnext := fun {lead line other} => @ih lead line other hsteady.of_cons
    rw [fillLine_cons, fillLine_cons]
    split
    · split
      · refine hnext ?_
        simp only [columnsOf_append_space]
        refine h.imp (by omega) fun ⟨hlead, hwords⟩ => ⟨hlead, fun next hmem => ?_⟩
        have := hwords next (List.mem_cons_of_mem _ hmem)
        omega
      · -- Only the other fill closes its line, so this one leads by one more.
        have hlead : (fillLine limit margin (line ++ " " ++ word) others).length ≤
            lead + 1 + (fillLine limit margin (margin ++ word) others).length :=
          hnext (.inr ⟨Nat.succ_pos _, fun next hmem =>
            hsteady word List.mem_cons_self next (List.mem_cons_of_mem _ hmem)⟩)
        rw [List.length_cons]
        omega
    · split
      · -- Only this fill closes its line, which costs one line of its lead.
        rcases h with h | ⟨hlead, hwords⟩
        · omega
        · have hback : (fillLine limit margin (margin ++ word) others).length ≤
              lead - 1 + (fillLine limit margin (other ++ " " ++ word) others).length := by
            refine hnext (.inl ?_)
            rw [columnsOf_append_space]
            exact hwords word List.mem_cons_self
          rw [List.length_cons]
          omega
      · rw [List.length_cons, List.length_cons]
        omega

/-- It costs no more than one line to begin a new line for a word. -/
lemma length_fillLine_cons_le {limit : Nat} {margin line word : String} {words : List String}
    (hsteady : IsSteady margin (word :: words)) :
    (fillLine limit margin line (word :: words)).length ≤
      1 + (fillLine limit margin (margin ++ word) words).length := by
  rw [fillLine_cons]
  split
  · exact length_fillLine_le hsteady.of_cons (.inr ⟨Nat.one_pos, fun next hmem =>
      hsteady word List.mem_cons_self next (List.mem_cons_of_mem _ hmem)⟩)
  · rw [List.length_cons]
    omega

/-- A line takes a group of words that it fits together with. -/
lemma fillLine_append {limit : Nat} {margin front first : String} {group : List String}
    (hfits : columnsOf (front ++ " ".intercalate (first :: group)) ≤ limit ∨ group = [])
    (words : List String) :
    fillLine limit margin (front ++ first) (group ++ words) =
      fillLine limit margin (front ++ " ".intercalate (first :: group)) words := by
  induction group generalizing front first with
  | nil => simp
  | cons second others ih =>
    have hfits := hfits.resolve_right (List.cons_ne_nil _ _)
    rw [append_intercalate_cons_cons] at hfits ⊢
    have hroom : columnsOf (front ++ first) + 1 + columnsOf second ≤ limit := by
      rw [← columnsOf_append_space]
      exact (columnsOf_le_intercalate _ second others).trans hfits
    rw [List.cons_append, fillLine_cons, if_pos hroom]
    exact ih (.inl hfits)

/-- A fill has no more lines than any layout of its words. -/
lemma length_fillLine_le_of_isLayout {limit : Nat} {firstMargin margin word : String}
    {words : List String} {groups : List (List String)}
    (hsteady : IsSteady margin (word :: words))
    (h : IsLayout columnsOf limit firstMargin margin groups (word :: words)) :
    (fillLine limit margin (firstMargin ++ word) words).length ≤ groups.length := by
  induction groups generalizing firstMargin word words with
  | nil => cases h
  | cons group rest ih =>
    obtain ⟨words', hwords, hne, hfits, hrest⟩ := h.exists_rest
    obtain ⟨first, others, rfl⟩ := List.exists_cons_of_ne_nil hne
    rw [List.cons_append, List.cons.injEq] at hwords
    obtain ⟨rfl, rfl⟩ := hwords
    -- The line takes all words that the layout has on it, and goes on to what is broken off there.
    rw [fillLine_append (hfits.imp_right (by simp)), List.length_cons]
    cases words' with
    | nil => simp
    | cons next words' =>
      have hsteady' : IsSteady margin (next :: words') :=
        @IsSteady.of_append_right margin (next :: words') (word :: others) hsteady
      have hbreak := @length_fillLine_cons_le limit margin
        (firstMargin ++ " ".intercalate (word :: others)) next words' hsteady'
      have := ih hsteady' hrest
      omega

/-! ## Characters that stand apart -/

@[simp] lemma uses_append {characters s t : String} :
    Uses characters (s ++ t) ↔ Uses characters s ∧ Uses characters t := by
  simp [Uses]

lemma uses_append_right {characters others text : String} (h : Uses characters text) :
    Uses (others ++ characters) text := by
  rw [Uses, String.toList_append]
  exact List.subset_append_of_subset_right _ h

lemma uses_intercalate {characters : String} {words : List String} (hspace : Uses characters " ")
    (h : ∀ word ∈ words, Uses characters word) : Uses characters (" ".intercalate words) := by
  induction words with
  | nil => simp [Uses]
  | cons first rest ih =>
    rw [List.forall_mem_cons] at h
    cases rest with
    | nil => simpa using h.1
    | cons second others =>
      rw [String.intercalate_cons_cons, uses_append, uses_append]
      exact ⟨⟨h.1, hspace⟩, ih h.2⟩

lemma uses_of_mem_wordsOf {text word : String} (h : word ∈ wordsOf text) : Uses text word := by
  obtain ⟨chars, hmem, rfl⟩ := List.mem_map.1 h
  intro c hc
  rw [String.toList_ofList] at hc
  exact (mem_words hmem c hc).1

section

variable {measure measure' : String → Nat} {characters firstMargin margin : String} {limit : Nat}
  {groups : List (List String)} {words : List String}

/-- Whether words are laid out depends on the measure of texts of their characters only. -/
lemma IsLayout.congr (hmeasure : ∀ text, Uses characters text → measure text = measure' text)
    (hfirst : Uses characters firstMargin) (hmargin : Uses characters margin)
    (hspace : Uses characters " ") (hwords : ∀ word ∈ words, Uses characters word)
    (h : IsLayout measure limit firstMargin margin groups words) :
    IsLayout measure' limit firstMargin margin groups words := by
  induction h with
  | nil => exact .nil
  | cons hne hfits _ ih =>
    rw [List.forall_mem_append] at hwords
    rw [hmeasure _ (uses_append.2 ⟨hfirst, uses_intercalate hspace hwords.1⟩)] at hfits
    exact .cons hne hfits (ih hmargin hmargin hwords.2)

lemma IsTight.congr (hmeasure : ∀ text, Uses characters text → measure text = measure' text)
    (hfirst : Uses characters firstMargin) (hmargin : Uses characters margin)
    (hspace : Uses characters " ") (hwords : ∀ group ∈ groups, ∀ word ∈ group, Uses characters word)
    (h : IsTight measure limit firstMargin margin groups) :
    IsTight measure' limit firstMargin margin groups := by
  induction groups generalizing firstMargin with
  | nil => trivial
  | cons first rest ih =>
    cases rest with
    | nil => trivial
    | cons second others =>
      rw [List.forall_mem_cons] at hwords
      refine ⟨fun word hword => ?_, ih hmargin hwords.2 h.2⟩
      have hsecond : Uses characters word :=
        hwords.2 second List.mem_cons_self word (List.mem_of_head? hword)
      rw [← hmeasure]
      · exact h.1 word hword
      · simp [hfirst, uses_intercalate hspace hwords.1, hspace, hsecond]

end

namespace StandApart

variable {firstMargin margin text : String} (h : StandApart (firstMargin ++ margin ++ " " ++ text))

include h

lemma isSteady : IsSteady margin (wordsOf text) := by
  refine IsSteady.of_add fun word hword => ?_
  have hmargin : Uses (firstMargin ++ margin ++ " " ++ text) margin := by simp [Uses]
  have hword : Uses (firstMargin ++ margin ++ " " ++ text) word :=
    uses_append_right (uses_of_mem_wordsOf hword)
  rw [h _ (uses_append.2 ⟨hmargin, hword⟩), columnsApart_append, h _ hmargin, h _ hword]

/-- Where characters stand apart, a layout that is optimal by the columns of whole lines is optimal by
the columns of characters. -/
lemma isOptimal {limit : Nat} {groups : List (List String)}
    (hoptimal : IsOptimal columnsOf limit firstMargin margin groups (wordsOf text)) :
    IsOptimal columnsApart limit firstMargin margin groups (wordsOf text) := by
  have hfirst : Uses (firstMargin ++ margin ++ " " ++ text) firstMargin := by simp [Uses]
  have hmargin : Uses (firstMargin ++ margin ++ " " ++ text) margin := by simp [Uses]
  have hspace : Uses (firstMargin ++ margin ++ " " ++ text) " " := by simp [Uses]
  have hwords : ∀ word ∈ wordsOf text, Uses (firstMargin ++ margin ++ " " ++ text) word :=
    fun word hword => uses_append_right (uses_of_mem_wordsOf hword)
  have hgroups : ∀ group ∈ groups, ∀ word ∈ group,
      Uses (firstMargin ++ margin ++ " " ++ text) word :=
    fun group hgroup word hword =>
      hwords word (hoptimal.layout.divides.mem_of_mem hgroup hword)
  refine ⟨hoptimal.layout.congr h hfirst hmargin hspace hwords,
    hoptimal.tight.congr h hfirst hmargin hspace hgroups, fun others hothers => ?_⟩
  exact hoptimal.least others
    (hothers.congr (fun text htext => (h text htext).symm) hfirst hmargin hspace hwords)

end StandApart

/-! ## Filled texts -/

section

variable (limit : Nat) (firstMargin margin : String) {text : String}

lemma exists_layout_fill (h : wordsOf text ≠ []) :
    ∃ groups, fill limit firstMargin margin text = linesFor firstMargin margin groups ∧
      IsLayout columnsOf limit firstMargin margin groups (wordsOf text) ∧
      IsTight columnsOf limit firstMargin margin groups := by
  obtain ⟨word, words, hwords⟩ := List.exists_cons_of_ne_nil h
  have hlayout := exists_layout_fillLine limit margin firstMargin (List.cons_ne_nil word [])
    (.inr rfl) words
  rwa [String.intercalate_singleton, List.singleton_append, ← fill_eq_fillLine _ _ _ hwords,
    ← hwords] at hlayout

variable {limit firstMargin margin} in
lemma length_fill_le {groups : List (List String)} (hsteady : IsSteady margin (wordsOf text))
    (h : wordsOf text ≠ []) (hlayout : IsLayout columnsOf limit firstMargin margin groups
      (wordsOf text)) : (fill limit firstMargin margin text).length ≤ groups.length := by
  obtain ⟨word, words, hwords⟩ := List.exists_cons_of_ne_nil h
  rw [hwords] at hsteady hlayout
  rw [fill_eq_fillLine _ _ _ hwords]
  exact length_fillLine_le_of_isLayout hsteady hlayout

/-- A text does not fill more lines where there are more columns. -/
lemma length_fill_anti {wider : Nat} (hsteady : IsSteady margin (wordsOf text))
    (h : wordsOf text ≠ []) (hle : limit ≤ wider) :
    (fill wider firstMargin margin text).length ≤ (fill limit firstMargin margin text).length := by
  obtain ⟨groups, hlines, hlayout, -⟩ := exists_layout_fill limit firstMargin margin h
  rw [hlines, length_linesFor]
  exact length_fill_le hsteady h (hlayout.mono hle)

end

/-- **Filled lines fit and are as few as can be.**  The lines of a text lay out its words, and no
line has room for the word that the next one opens with.  Behind a steady margin no layout has fewer
lines, so that more columns never make more lines.  Where the characters stand apart, all this holds
of the sums of their columns too. -/
theorem fill_optimal (limit : Nat) (firstMargin margin text : String) (h : wordsOf text ≠ []) :
    ∃ groups, fill limit firstMargin margin text = linesFor firstMargin margin groups ∧
      IsLayout columnsOf limit firstMargin margin groups (wordsOf text) ∧
      IsTight columnsOf limit firstMargin margin groups ∧
      (IsSteady margin (wordsOf text) →
        IsOptimal columnsOf limit firstMargin margin groups (wordsOf text) ∧
        ∀ wider, limit ≤ wider → (fill wider firstMargin margin text).length ≤
          (fill limit firstMargin margin text).length) ∧
      (StandApart (firstMargin ++ margin ++ " " ++ text) →
        IsOptimal columnsApart limit firstMargin margin groups (wordsOf text) ∧
        ∀ wider, limit ≤ wider → (fill wider firstMargin margin text).length ≤
          (fill limit firstMargin margin text).length) := by
  obtain ⟨groups, hlines, hlayout, htight⟩ := exists_layout_fill limit firstMargin margin h
  have hoptimal : IsSteady margin (wordsOf text) →
      IsOptimal columnsOf limit firstMargin margin groups (wordsOf text) := by
    refine fun hsteady => ⟨hlayout, htight, fun others hothers => ?_⟩
    rw [← length_linesFor firstMargin margin groups, ← hlines]
    exact length_fill_le hsteady h hothers
  have hmono : IsSteady margin (wordsOf text) → ∀ wider, limit ≤ wider →
      (fill wider firstMargin margin text).length ≤ (fill limit firstMargin margin text).length :=
    fun hsteady _ hle => length_fill_anti limit firstMargin margin hsteady h hle
  exact ⟨groups, hlines, hlayout, htight, fun hsteady => ⟨hoptimal hsteady, hmono hsteady⟩,
    fun hapart => ⟨hapart.isOptimal (hoptimal hapart.isSteady), hmono hapart.isSteady⟩⟩

theorem fill_optimal_four_words :
    let text := "one two three four"
    wordsOf text ≠ [] ∧ IsSteady " * " (wordsOf text) ∧
      StandApart (" * " ++ " * " ++ " " ++ text) ∧
      ∃ groups, linesFor " * " " * " groups = [" * one two", " * three", " * four"] ∧
        IsOptimal columnsOf 12 " * " " * " groups (wordsOf text) ∧
        IsOptimal columnsApart 12 " * " " * " groups (wordsOf text) := by
  intro text
  have hwords : wordsOf text ≠ [] := by decide
  have hsteady : IsSteady " * " (wordsOf text) := IsSteady.append_space " *" _
  have hapart : StandApart (" * " ++ " * " ++ " " ++ text) := .of_isPlain (by decide)
  obtain ⟨groups, hlines, -, -, hoptimal, hsums⟩ := fill_optimal 12 " * " " * " text hwords
  have hfill : fill 12 " * " " * " "one two three four" = [" * one two", " * three", " * four"] :=
    rfl
  exact ⟨hwords, hsteady, hapart, groups, hlines.symm.trans hfill, (hoptimal hsteady).1,
    (hsums hapart).1⟩

/-- The columns of characters are not those of a line: a lam and an alef are drawn as one letter, so
that both words stand on a line of three columns.  Nor are the lines as few as can be behind every
margin, or fewer where there are more columns: the letters of this one, joined in pairs, take other
partners and more columns before an `a` than before one of their own. -/
theorem fill_not_optimal_apart :
    let margin := "\u2d31\u2d7f\u2d31\u200d\u2d31\u2d7f\u2d31\u200d\u2d31\u2d7f"
    let text := "x \u2d31 a b"
    (¬ ∃ groups, fill 3 "" "" "\u0644\u0627 \u0644\u0627" = linesFor "" "" groups ∧
      IsOptimal columnsApart 3 "" "" groups (wordsOf "\u0644\u0627 \u0644\u0627")) ∧
    (fill 7 "-----" margin text).length < (fill 8 "-----" margin text).length ∧
    ¬ ∃ groups, fill 8 "-----" margin text = linesFor "-----" margin groups ∧
      IsOptimal columnsOf 8 "-----" margin groups (wordsOf text) := by
  intro margin text
  have hmore : (fill 7 "-----" margin text).length < (fill 8 "-----" margin text).length := by
    decide +kernel
  refine ⟨?_, hmore, ?_⟩
  · rintro ⟨groups, hlines, hoptimal⟩
    have hcount : groups.length = 1 := by
      rw [← length_linesFor "" "" groups, ← hlines]
      decide +kernel
    obtain ⟨group, rfl⟩ := List.length_eq_one_iff.1 hcount
    have hgroup : group = ["\u0644\u0627", "\u0644\u0627"] := by
      have hwords := hoptimal.layout.divides.flatten
      rw [List.flatten_singleton] at hwords
      exact hwords.trans (by decide)
    subst hgroup
    cases hoptimal.layout with
    | cons _ hfits _ => exact absurd hfits (by decide +kernel)
  · rintro ⟨groups, hlines, hoptimal⟩
    -- The lines that seven columns are filled with are a layout for eight columns too.
    obtain ⟨others, hothers, hlayout, -⟩ := exists_layout_fill 7 "-----" margin
      (by decide : wordsOf text ≠ [])
    have hleast := hoptimal.least others (hlayout.mono (by decide))
    rw [hothers, hlines, length_linesFor, length_linesFor] at hmore
    exact absurd hleast (Nat.not_le.2 hmore)

end AssertionHeader.Text
