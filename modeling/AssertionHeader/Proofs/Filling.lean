import AssertionHeader.Proofs.Lines

/-!
# Filling keeps the words

Filled text has the words of the text that was filled, in their order, and only the breaks between
them are new.  What stands on the lines is a division of the words into groups (`Divides`), one for
each line and none of them empty; `exists_divides_fillFrom` follows the fill with the group of the
line that is being filled.

Words are found again wherever blanks are put between them (`words_intercalate`).  So text that was
filled without margins, and whose lines are joined again, is filled into the same lines
(`fill_division`).
-/

namespace AssertionHeader.Text

/-! ## Words between blanks -/

lemma words_append_blank {b : Char} (hb : isBlank b = true) (s t : List Char) :
    words (s ++ b :: t) = words s ++ words t := by
  rw [words, List.splitOnP_append_cons s t hb, List.filter_append]
  rfl

lemma words_blanks_append {blanks : List Char} (h : ∀ b ∈ blanks, isBlank b = true)
    (text : List Char) : words (blanks ++ text) = words text := by
  induction blanks with
  | nil => rfl
  | cons b rest ih =>
    rw [List.forall_mem_cons] at h
    have hsplit := words_append_blank h.1 [] (rest ++ text)
    rw [words_nil, List.nil_append, List.nil_append] at hsplit
    rw [List.cons_append, hsplit, ih h.2]

/-- Texts that are joined by blanks have the words of all of them. -/
lemma words_intercalate {separator : List Char} (hne : separator ≠ [])
    (hblank : ∀ b ∈ separator, isBlank b = true) (texts : List (List Char)) :
    words (separator.intercalate texts) = texts.flatMap words := by
  obtain ⟨b, blanks, rfl⟩ := List.exists_cons_of_ne_nil hne
  rw [List.forall_mem_cons] at hblank
  induction texts with
  | nil => rfl
  | cons first rest ih =>
    cases rest with
    | nil => simp
    | cons second others =>
      rw [List.intercalate_cons_cons, List.append_assoc, List.cons_append,
        words_append_blank hblank.1, words_blanks_append hblank.2, ih]
      rfl

lemma words_of_mem_words {text word : List Char} (h : word ∈ words text) : words word = [word] := by
  have hne : word ≠ [] := by simpa using (List.mem_filter.1 h).2
  rw [words, List.splitOnP_eq_singleton fun c hc => (mem_words h c hc).2]
  simp [hne]

/-! ## Divisions of the words -/

/-- The groups are consecutive parts of the list, and none of them is empty. -/
structure Divides {α : Type} (groups : List (List α)) (items : List α) : Prop where
  flatten : groups.flatten = items
  ne_nil : ∀ group ∈ groups, group ≠ []

namespace Divides

variable {α : Type} {groups : List (List α)} {items : List α}

lemma singleton (hne : items ≠ []) : Divides [items] items :=
  ⟨List.append_nil _, List.forall_mem_singleton.2 hne⟩

lemma cons {group : List α} (hne : group ≠ []) (h : Divides groups items) :
    Divides (group :: groups) (group ++ items) :=
  ⟨congrArg (group ++ ·) h.flatten, List.forall_mem_cons.2 ⟨hne, h.ne_nil⟩⟩

lemma map {β : Type} (f : α → β) (h : Divides groups items) :
    Divides (groups.map (List.map f)) (items.map f) := by
  refine ⟨by rw [← List.map_flatten, h.flatten], fun group hmem => ?_⟩
  obtain ⟨original, horiginal, rfl⟩ := List.mem_map.1 hmem
  simpa using h.ne_nil original horiginal

lemma mem_of_mem (h : Divides groups items) {group : List α} (hgroup : group ∈ groups) {item : α}
    (hitem : item ∈ group) : item ∈ items :=
  h.flatten ▸ List.mem_flatten.2 ⟨group, hgroup, hitem⟩

end Divides

/-- A group grows by a space and a word. -/
lemma intercalate_concat_word {group : List (List Char)} (hne : group ≠ []) (word : List Char) :
    [' '].intercalate (group ++ [word]) = [' '].intercalate group ++ ' ' :: word := by
  obtain ⟨front, last, rfl⟩ := (List.eq_nil_or_concat' group).resolve_left hne
  rw [intercalate_concat, intercalate_concat, List.flatMap_append]
  simp

/-- The fill divides the words of the current line and those that follow. -/
lemma exists_divides_fillFrom (limit : Nat) (margin front : List Char) {group : List (List Char)}
    (hne : group ≠ []) (words : List (List Char)) :
    ∃ first rest, Divides (first :: rest) (group ++ words) ∧
      fillFrom limit margin (front ++ [' '].intercalate group) words =
        (front ++ [' '].intercalate first) :: rest.map (margin ++ [' '].intercalate ·) := by
  induction words generalizing front group with
  | nil =>
    refine ⟨group, [], ?_, rfl⟩
    rw [List.append_nil]
    exact .singleton hne
  | cons word others ih =>
    rw [fillFrom]
    split
    · -- The word joins the group of the line.
      obtain ⟨first, rest, hdivides, hlines⟩ := @ih front (group ++ [word]) (by simp)
      rw [intercalate_concat_word hne, ← List.append_assoc] at hlines
      rw [List.append_assoc, List.singleton_append] at hdivides
      exact ⟨first, rest, hdivides, hlines⟩
    · -- The group of the line is complete, and the word begins the next one.
      obtain ⟨first, rest, hdivides, hlines⟩ := @ih margin [word] (by simp)
      rw [List.intercalate_singleton] at hlines
      exact ⟨group, first :: rest, hdivides.cons hne, by rw [hlines, List.map_cons]⟩

/-! ## Filled texts -/

/-- The words of a text, as texts. -/
def wordsOf (text : String) : List String :=
  (words text.toList).map String.ofList

lemma wordsOf_eq_nil_iff {text : String} : wordsOf text = [] ↔ words text.toList = [] :=
  List.map_eq_nil_iff

lemma wordsOf_intercalate {separator : String} (hne : separator.toList ≠ [])
    (hblank : ∀ b ∈ separator.toList, isBlank b = true) (texts : List String) :
    wordsOf (separator.intercalate texts) = texts.flatMap wordsOf := by
  rw [wordsOf, String.toList_intercalate, words_intercalate hne hblank, List.flatMap_map,
    List.map_flatMap]
  rfl

lemma wordsOf_of_mem {text word : String} (h : word ∈ wordsOf text) : wordsOf word = [word] := by
  obtain ⟨chars, hmem, rfl⟩ := List.mem_map.1 h
  rw [wordsOf, String.toList_ofList, words_of_mem_words hmem]
  rfl

/-- Words with a space between any two of them are found again. -/
lemma wordsOf_spaced {text : String} {group : List String}
    (h : ∀ word ∈ group, word ∈ wordsOf text) : wordsOf (" ".intercalate group) = group := by
  have hspace : isBlank ' ' = true := by decide
  rw [wordsOf_intercalate (by simp) (by simp [hspace]),
    List.flatMap_congr fun word hmem => wordsOf_of_mem (h word hmem), List.flatMap_singleton']

section

variable (limit : Nat) (firstMargin margin : String)

lemma fill_of_wordsOf_eq_nil {text : String} (h : wordsOf text = []) :
    fill limit firstMargin margin text = [String.ofList (trimEnd firstMargin.toList)] := by
  rw [fill, wordsOf_eq_nil_iff.1 h]
  rfl

/-- The lines of a text hold its words, group by group. -/
lemma exists_divides_fill {text : String} (h : wordsOf text ≠ []) :
    ∃ first rest, Divides (first :: rest) (wordsOf text) ∧
      fill limit firstMargin margin text =
        (firstMargin ++ " ".intercalate first) :: rest.map (margin ++ " ".intercalate ·) := by
  have hline : ∀ (front : String) (group : List (List Char)),
      String.ofList (front.toList ++ [' '].intercalate group) =
        front ++ " ".intercalate (group.map String.ofList) := by
    intro front group
    simp [← String.toList_inj, Function.comp_def]
  obtain ⟨word, others, hwords⟩ := List.exists_cons_of_ne_nil (mt wordsOf_eq_nil_iff.2 h)
  obtain ⟨first, rest, hdivides, hlines⟩ := exists_divides_fillFrom limit margin.toList
    firstMargin.toList (List.cons_ne_nil word []) others
  refine ⟨first.map String.ofList, rest.map (List.map String.ofList), ?_, ?_⟩
  · rw [wordsOf, hwords]
    exact hdivides.map String.ofList
  · rw [List.intercalate_singleton] at hlines
    rw [fill, hwords, fillWords, hlines, List.map_cons, hline, List.map_map, List.map_map]
    exact congrArg _ (List.map_congr_left fun group _ => hline margin group)

lemma fill_congr {text other : String} (h : wordsOf other = wordsOf text) :
    fill limit firstMargin margin other = fill limit firstMargin margin text := by
  have hwords : words other.toList = words text.toList :=
    List.map_injective_iff.2 (fun _ _ => String.ofList_injective) h
  rw [fill, fill, hwords]

end

/-- Lines that were filled without margins have the words of the text, also joined by blanks. -/
lemma wordsOf_intercalate_fill (limit : Nat) {separator : String} (hne : separator.toList ≠ [])
    (hblank : ∀ b ∈ separator.toList, isBlank b = true) (text : String) :
    wordsOf (separator.intercalate (fill limit "" "" text)) = wordsOf text := by
  by_cases hwords : wordsOf text = []
  · rw [fill_of_wordsOf_eq_nil limit "" "" hwords, hwords]
    rfl
  · obtain ⟨first, rest, hdivides, hfill⟩ := exists_divides_fill limit "" "" hwords
    have hlines : fill limit "" "" text = (first :: rest).map (" ".intercalate ·) := by
      simpa using hfill
    have hgroup : ∀ group ∈ first :: rest, wordsOf (" ".intercalate group) = group :=
      fun group hmem => wordsOf_spaced fun word hword => hdivides.mem_of_mem hmem hword
    rw [hlines, wordsOf_intercalate hne hblank, List.flatMap_map, List.flatMap_congr hgroup,
      ← hdivides.flatten, List.flatMap_id']

/-- **Filling keeps the words.**  A text without words fills one line, the first margin up to the
blanks at its end.  The words of any other text are divided among the lines: each line is a margin
and a group of words with a space between any two.  So the lines depend on the words only, and lines
that were filled without margins and joined by blanks are filled into themselves. -/
theorem fill_division (limit : Nat) (firstMargin margin text : String) :
    (wordsOf text = [] →
      fill limit firstMargin margin text = [String.ofList (trimEnd firstMargin.toList)]) ∧
    (wordsOf text ≠ [] →
      ∃ first rest, Divides (first :: rest) (wordsOf text) ∧
        fill limit firstMargin margin text =
          (firstMargin ++ " ".intercalate first) :: rest.map (margin ++ " ".intercalate ·)) ∧
    (∀ other, wordsOf other = wordsOf text →
      fill limit firstMargin margin other = fill limit firstMargin margin text) ∧
    ∀ separator : String, separator.toList ≠ [] → (∀ b ∈ separator.toList, isBlank b = true) →
      fill limit "" "" (separator.intercalate (fill limit "" "" text)) = fill limit "" "" text :=
  ⟨fill_of_wordsOf_eq_nil limit firstMargin margin,
    exists_divides_fill limit firstMargin margin,
    fun _ h => fill_congr limit firstMargin margin h,
    fun _ hne hblank =>
      fill_congr limit "" "" (wordsOf_intercalate_fill limit hne hblank text)⟩

example : fill 12 " * " " * " "one two three four" = [" * one two", " * three", " * four"] := rfl

end AssertionHeader.Text
