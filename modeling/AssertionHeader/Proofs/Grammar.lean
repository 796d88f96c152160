import AssertionHeader.Proofs.Spelling
import Mathlib.Data.List.Infix

/-!
# The grammar of macro names

The name of an assertion is a polarity, at most one underscore and a spelled condition; the name of
a comparator is an identifier and an ending.  Since the spellings of polarities overlap and the
underscore may be left out, one text can be cut in several ways; `Names` admits the one cut that
takes the longest polarity and an underscore wherever one follows.

`decode_grammar` says that `Name.decode` accepts exactly these names and that each is read in one
way only.  A condition keeps its reading behind any polarity and an underscore, with one exception:
behind `Assert_`, a condition that starts with `not` lends these letters to the polarity.
-/

namespace AssertionHeader

/-! ## Openings and endings of texts -/

namespace Text

lemma isPrefixOf?_append (opening rest : List Char) :
    opening.isPrefixOf? (opening ++ rest) = some rest :=
  List.isPrefixOf?_eq_some_iff_append_eq.2 rfl

lemma isPrefixOf?_eq_none {opening text : List Char} (h : ¬ opening <+: text) :
    opening.isPrefixOf? text = none := by
  rw [Option.eq_none_iff_forall_ne_some]
  intro rest hrest
  exact h ⟨rest, List.isPrefixOf?_eq_some_iff_append_eq.1 hrest⟩

/-- Two words close the same text only if one of them closes the other. -/
lemma not_suffix_append {word front ending : List Char} (hlong : ¬ word <:+ ending)
    (hshort : ¬ ending <:+ word) : ¬ word <:+ front ++ ending := by
  intro h
  rcases List.suffix_or_suffix_of_suffix h (List.suffix_append front ending) with hin | hin
  · exact hlong hin
  · exact hshort hin

end Text

/-! ## The polarity of a text -/

namespace Polarity

/-- The text opens with the polarity, and with no polarity of a longer spelling. -/
structure OpensLongest (polarity : Polarity) (text : List Char) : Prop where
  opens : polarity.spelling.toList <+: text
  longest : ∀ other : Polarity, other.spelling.toList <+: text →
    other.spelling.length ≤ polarity.spelling.length

/-- The only polarity whose spelling opens another's is `Assert`. -/
lemma eq_or_of_opens_spelling {p q : Polarity} (h : p.spelling.toList <+: q.spelling.toList) :
    p = q ∨ p = assert ∧ q = assertNot := by
  revert h
  cases p <;> cases q <;> decide

lemma eq_or_of_both_open {p q : Polarity} {text : List Char}
    (hp : p.spelling.toList <+: text) (hq : q.spelling.toList <+: text) :
    p = q ∨ (p = assert ∧ q = assertNot) ∨ (q = assert ∧ p = assertNot) := by
  rcases List.prefix_or_prefix_of_prefix hp hq with h | h
  · exact (eq_or_of_opens_spelling h).imp_right .inl
  · exact (eq_or_of_opens_spelling h).imp Eq.symm .inr

lemma exists_opensLongest {q : Polarity} {text : List Char} (hq : q.spelling.toList <+: text) :
    ∃ p : Polarity, p.OpensLongest text := by
  by_cases hnot : assertNot.spelling.toList <+: text
  · refine ⟨assertNot, hnot, fun other hother => ?_⟩
    rcases eq_or_of_both_open hnot hother with rfl | ⟨h, -⟩ | ⟨rfl, -⟩
    · exact Nat.le_refl _
    · cases h
    · decide
  · refine ⟨q, hq, fun other hother => ?_⟩
    rcases eq_or_of_both_open hq hother with rfl | ⟨-, rfl⟩ | ⟨rfl, rfl⟩
    · exact Nat.le_refl _
    · exact absurd hother hnot
    · decide

namespace OpensLongest

variable {p q : Polarity} {text : List Char}

lemma eq_assert_of_ne (h : p.OpensLongest text) (hq : q.spelling.toList <+: text) (hne : q ≠ p) :
    q = assert := by
  rcases eq_or_of_both_open hq h.opens with rfl | ⟨rfl, -⟩ | ⟨rfl, rfl⟩
  · exact absurd rfl hne
  · rfl
  · exact absurd (h.longest _ hq) (by decide)

end OpensLongest

/-! ## Cutting a name -/

/-- What follows the polarity is the spelling, behind an underscore wherever there is one. -/
def Separates (tail spelling : List Char) : Prop :=
  tail = '_' :: spelling ∨ tail = spelling ∧ spelling.head? ≠ some '_'

lemma dropSeparator_eq_iff {tail spelling : List Char} :
    dropSeparator tail = spelling ↔ Separates tail spelling := by
  unfold dropSeparator Separates
  split
  · next rest =>
    constructor
    · rintro rfl
      exact .inl rfl
    · rintro (h | ⟨rfl, h⟩)
      · exact (List.cons.inj h).2
      · exact absurd rfl h
  · next hne =>
    constructor
    · rintro rfl
      refine .inr ⟨rfl, fun h => ?_⟩
      obtain ⟨rest, rfl⟩ := List.head?_eq_some_iff.1 h
      exact hne rest rfl
    · rintro (rfl | ⟨rfl, -⟩)
      · exact absurd rfl (hne _)
      · rfl

lemma split?_of_opensLongest {p : Polarity} {tail : List Char}
    (h : p.OpensLongest (p.spelling.toList ++ tail)) :
    split? (p.spelling.toList ++ tail) = some (p, dropSeparator tail) := by
  have hself := Text.isPrefixOf?_append p.spelling.toList tail
  -- A polarity that is tried before `p` does not open the text.
  have hother : ∀ q : Polarity, q ≠ p → q ≠ assert →
      q.spelling.toList.isPrefixOf? (p.spelling.toList ++ tail) = none :=
    fun q hne hassert => Text.isPrefixOf?_eq_none fun hq => hassert (h.eq_assert_of_ne hq hne)
  cases p <;> simp [split?, all, hself, hother]

/-- A name is cut behind the longest polarity that it opens with. -/
lemma split?_eq_some_iff {token spelling : List Char} {p : Polarity} :
    split? token = some (p, spelling) ↔
      p.OpensLongest token ∧ ∃ tail, token = p.spelling.toList ++ tail ∧
        Separates tail spelling := by
  constructor
  · intro h
    obtain ⟨q, -, hq⟩ := List.exists_of_findSome?_eq_some h
    obtain ⟨rest, hrest, -⟩ := Option.map_eq_some_iff.1 hq
    obtain ⟨r, hr⟩ := exists_opensLongest ⟨rest, List.isPrefixOf?_eq_some_iff_append_eq.1 hrest⟩
    obtain ⟨tail, rfl⟩ := hr.opens
    rw [split?_of_opensLongest hr] at h
    obtain ⟨rfl, hspelling⟩ := Prod.mk.inj (Option.some.inj h)
    exact ⟨hr, tail, rfl, dropSeparator_eq_iff.1 hspelling⟩
  · rintro ⟨hopens, tail, rfl, hseparates⟩
    rw [split?_of_opensLongest hopens, dropSeparator_eq_iff.2 hseparates]

lemma split?_eq_none_iff {token : List Char} :
    split? token = none ↔ ∀ p : Polarity, ¬ p.spelling.toList <+: token := by
  constructor
  · intro h p hp
    obtain ⟨q, hq⟩ := exists_opensLongest hp
    obtain ⟨tail, rfl⟩ := hq.opens
    simp [split?_of_opensLongest hq] at h
  · intro h
    simp [split?, List.findSome?_eq_none_iff, fun p => Text.isPrefixOf?_eq_none (h p)]

end Polarity

/-! ## Names -/

lemma Comparator.splitType?_eq_some_iff {name operandType : List Char} :
    splitType? name = some operandType ↔
      Identifier.isIdentifier operandType = true ∧ name = operandType ++ "_compare".toList := by
  simp only [splitType?, stripSuffix?, suffix, Option.filter_eq_some_iff,
    List.isSuffixOf?_eq_some_iff_append_eq]
  exact ⟨fun h => ⟨h.2, h.1.symm⟩, fun h => ⟨h.2.symm, h.1⟩⟩

/-- The token is the name of an assertion: a polarity, an underscore or none, and the spelling of a
condition. -/
structure Names (token : List Char) (polarity : Polarity) (spelling : List Char) (sense : Sense) :
    Prop where
  longest : polarity.OpensLongest token
  separated : token = polarity.spelling.toList ++ '_' :: spelling ∨
    token = polarity.spelling.toList ++ spelling ∧ spelling.head? ≠ some '_'
  spells : Spells spelling sense

/-- The token is the name of a comparator: it opens with no polarity, and it is an operand type
with the ending of comparators. -/
structure NamesComparator (token operandType : List Char) : Prop where
  noPolarity : ∀ polarity : Polarity, ¬ polarity.spelling.toList <+: token
  isIdentifier : Identifier.isIdentifier operandType = true
  ending : token = operandType ++ "_compare".toList

/-- The assertion that a token with the given polarity and sense names. -/
def Sense.assertion (sense : Sense) (token : String) (polarity : Polarity) : Assertion :=
  .make token polarity (sense.reading polarity.inverts).inverted
    (sense.condition polarity.inverts) sense.operandType

namespace Names

variable {token spelling : List Char} {polarity : Polarity} {sense : Sense}

lemma iff_split? : Names token polarity spelling sense ↔
    Polarity.split? token = some (polarity, spelling) ∧ Spells spelling sense := by
  rw [Polarity.split?_eq_some_iff]
  constructor
  · rintro ⟨hlongest, htoken | ⟨htoken, hhead⟩, hspells⟩
    · exact ⟨⟨hlongest, _, htoken, .inl rfl⟩, hspells⟩
    · exact ⟨⟨hlongest, _, htoken, .inr ⟨rfl, hhead⟩⟩, hspells⟩
  · rintro ⟨⟨hlongest, tail, rfl, rfl | ⟨rfl, hhead⟩⟩, hspells⟩
    · exact ⟨hlongest, .inl rfl, hspells⟩
    · exact ⟨hlongest, .inr ⟨rfl, hhead⟩, hspells⟩

lemma spelling_suffix (h : Names token polarity spelling sense) : spelling <:+ token := by
  rcases h.separated with heq | ⟨heq, -⟩
  · exact ⟨polarity.spelling.toList ++ ['_'], by simp [heq]⟩
  · exact ⟨polarity.spelling.toList, heq.symm⟩

/-- A token is the name of an assertion in one way only. -/
lemma unique {polarity' : Polarity} {spelling' : List Char} {sense' : Sense}
    (h : Names token polarity spelling sense) (h' : Names token polarity' spelling' sense') :
    polarity = polarity' ∧ spelling = spelling' ∧ sense = sense' := by
  obtain ⟨hsplit, hspells⟩ := iff_split?.1 h
  obtain ⟨hsplit', hspells'⟩ := iff_split?.1 h'
  rw [hsplit] at hsplit'
  obtain ⟨rfl, rfl⟩ := Prod.mk.inj (Option.some.inj hsplit')
  exact ⟨rfl, rfl, hspells.unique hspells'⟩

end Names

namespace NamesComparator

lemma iff_splitType? {token operandType : List Char} : NamesComparator token operandType ↔
    Polarity.split? token = none ∧ Comparator.splitType? token = some operandType := by
  rw [Polarity.split?_eq_none_iff, Comparator.splitType?_eq_some_iff]
  exact ⟨fun h => ⟨h.noPolarity, h.isIdentifier, h.ending⟩, fun h => ⟨h.1, h.2.1, h.2.2⟩⟩

end NamesComparator

namespace Name

lemma decode_of_names {token : String} {polarity : Polarity} {spelling : List Char} {sense : Sense}
    (h : Names token.toList polarity spelling sense) :
    decode token = assertion (sense.assertion token polarity) := by
  obtain ⟨hsplit, hspells⟩ := Names.iff_split?.1 h
  simp [decode, hsplit, Reading.ofSpelling?_of_spells hspells, Sense.assertion, Sense.reading]

lemma decode_of_namesComparator {token : String} {operandType : List Char}
    (h : NamesComparator token.toList operandType) :
    decode token = comparator (.ofType (String.ofList operandType)) := by
  obtain ⟨hsplit, htype⟩ := NamesComparator.iff_splitType?.1 h
  simp [decode, hsplit, htype]

/-- What a token is decoded to, by the grammar. -/
lemma decode_cases (token : String) :
    (∃ polarity spelling sense, Names token.toList polarity spelling sense ∧
      decode token = assertion (sense.assertion token polarity)) ∨
    (∃ operandType, NamesComparator token.toList operandType ∧
      decode token = comparator (.ofType (String.ofList operandType))) ∨
    ((∀ polarity spelling sense, ¬ Names token.toList polarity spelling sense) ∧
      (∀ operandType, ¬ NamesComparator token.toList operandType) ∧
      decode token = unrecognized token) := by
  by_cases hname : ∃ polarity spelling sense, Names token.toList polarity spelling sense
  · obtain ⟨polarity, spelling, sense, h⟩ := hname
    exact .inl ⟨polarity, spelling, sense, h, decode_of_names h⟩
  · by_cases hcomparator : ∃ operandType, NamesComparator token.toList operandType
    · obtain ⟨operandType, h⟩ := hcomparator
      exact .inr (.inl ⟨operandType, h, decode_of_namesComparator h⟩)
    · push Not at hname hcomparator
      refine .inr (.inr ⟨hname, hcomparator, ?_⟩)
      cases hsplit : Polarity.split? token.toList with
      | some cut =>
        obtain ⟨polarity, spelling⟩ := cut
        have hnone : Reading.ofSpelling? spelling polarity.inverts = none :=
          Reading.ofSpelling?_eq_none_iff.2 fun sense hspells =>
            hname polarity spelling sense (Names.iff_split?.2 ⟨hsplit, hspells⟩)
        simp [decode, hsplit, hnone]
      | none =>
        have hnone : Comparator.splitType? token.toList = none :=
          Option.eq_none_iff_forall_ne_some.2 fun operandType htype =>
            hcomparator operandType (NamesComparator.iff_splitType?.2 ⟨hsplit, htype⟩)
        simp [decode, hsplit, hnone]

lemma decode_eq_assertion_iff {token : String} {a : Assertion} :
    decode token = assertion a ↔ ∃ polarity spelling sense,
      Names token.toList polarity spelling sense ∧ a = sense.assertion token polarity := by
  constructor
  · intro h
    rcases decode_cases token with ⟨polarity, spelling, sense, hnames, hdecode⟩ |
      ⟨operandType, -, hdecode⟩ | ⟨-, -, hdecode⟩ <;> rw [hdecode] at h
    · exact ⟨polarity, spelling, sense, hnames, (assertion.inj h).symm⟩
    · cases h
    · cases h
  · rintro ⟨polarity, spelling, sense, hnames, rfl⟩
    exact decode_of_names hnames

lemma decode_eq_comparator_iff {token : String} {c : Comparator} :
    decode token = comparator c ↔ ∃ operandType,
      NamesComparator token.toList operandType ∧ c = .ofType (String.ofList operandType) := by
  constructor
  · intro h
    rcases decode_cases token with ⟨polarity, spelling, sense, -, hdecode⟩ |
      ⟨operandType, hnames, hdecode⟩ | ⟨-, -, hdecode⟩ <;> rw [hdecode] at h
    · cases h
    · exact ⟨operandType, hnames, (comparator.inj h).symm⟩
    · cases h
  · rintro ⟨operandType, hnames, rfl⟩
    exact decode_of_namesComparator hnames

lemma decode_eq_unrecognized_iff {token text : String} :
    decode token = unrecognized text ↔ text = token ∧
      (∀ polarity spelling sense, ¬ Names token.toList polarity spelling sense) ∧
      ∀ operandType, ¬ NamesComparator token.toList operandType := by
  rcases decode_cases token with ⟨polarity, spelling, sense, hnames, hdecode⟩ |
    ⟨operandType, hnames, hdecode⟩ | ⟨hassertion, hcomparator, hdecode⟩ <;> rw [hdecode]
  · simp only [reduceCtorEq, false_iff]
    rintro ⟨-, hnone, -⟩
    exact hnone polarity spelling sense hnames
  · simp only [reduceCtorEq, false_iff]
    rintro ⟨-, -, hnone⟩
    exact hnone operandType hnames
  · rw [unrecognized.injEq]
    exact ⟨fun h => ⟨h.symm, hassertion, hcomparator⟩, fun h => h.1.symm⟩

end Name

/-! ## Names that end like a comparator's -/

/-- No spelled condition ends like the name of a comparator. -/
lemma Spells.not_suffix {text : List Char} {sense : Sense} (h : Spells text sense) :
    ¬ "_compare".toList <:+ text := by
  have hwords : ∀ word ∈ Reading.words, ¬ "_compare".toList <:+ word.toList := by
    decide
  have hendings : ∀ entry ∈ Relation.endings, ¬ "_compare".toList <:+ entry.1.toList ∧
      ¬ entry.1.toList <:+ "_compare".toList := by
    decide
  rcases h.word_or_numeral_or_order with ⟨word, hword, rfl⟩ | ⟨n, hn⟩ |
    ⟨front, ending, relation, -, hmem, rfl⟩
  · exact hwords word hword
  · rintro ⟨front, rfl⟩
    rcases Numeral.digit_or_x_of_value? hn '_' (by simp) with hdigit | heq
    · exact absurd hdigit (by decide)
    · exact absurd heq (by decide)
  · obtain ⟨hlong, hshort⟩ := hendings _ (Relation.mem_endings_iff.2 hmem)
    exact Text.not_suffix_append hlong hshort

/-- No name of an assertion ends like the name of a comparator. -/
lemma Names.not_suffix {token spelling : List Char} {polarity : Polarity} {sense : Sense}
    (h : Names token polarity spelling sense) : ¬ "_compare".toList <:+ token := by
  intro htoken
  rcases List.suffix_or_suffix_of_suffix htoken h.spelling_suffix with hin | hin
  · exact h.spells.not_suffix hin
  · -- The spelling is a proper ending of `_compare`; of these only the empty text is one.
    have htails : ∀ tail ∈ "_compare".toList.tails,
        tail = [] ∨ Reading.ofSpelling? tail false = none := by
      decide
    rcases htails spelling ((List.mem_tails _ _).2 hin) with rfl | hnone
    · have hpolarity : ¬ "_compare".toList <:+ polarity.spelling.toList ++ ['_'] ∧
          ¬ "_compare".toList <:+ polarity.spelling.toList ++ [] := by
        cases polarity <;> decide
      rcases h.separated with rfl | ⟨rfl, -⟩
      · exact hpolarity.1 htoken
      · exact hpolarity.2 htoken
    · exact Reading.ofSpelling?_eq_none_iff.1 hnone sense h.spells

/-- The name of a comparator is read as such unless it opens with a polarity; then it spells
nothing. -/
lemma Name.decode_nameFor {operandType : String}
    (hType : Identifier.isIdentifier operandType.toList = true) :
    (decode (Comparator.nameFor operandType) = comparator (.ofType operandType) ∧
        ∀ polarity : Polarity, ¬ polarity.spelling.toList <+:
          (Comparator.nameFor operandType).toList) ∨
      (decode (Comparator.nameFor operandType) = unrecognized (Comparator.nameFor operandType) ∧
        ∃ polarity : Polarity, polarity.spelling.toList <+:
          (Comparator.nameFor operandType).toList) := by
  have htext : (Comparator.nameFor operandType).toList =
      operandType.toList ++ "_compare".toList := by
    simp [Comparator.nameFor, Comparator.suffix]
  by_cases hopens : ∃ polarity : Polarity, polarity.spelling.toList <+:
      (Comparator.nameFor operandType).toList
  · refine .inr ⟨decode_eq_unrecognized_iff.2 ⟨rfl, fun polarity spelling sense hnames => ?_,
      fun operandType hnames => ?_⟩, hopens⟩
    · exact hnames.not_suffix ⟨operandType.toList, htext.symm⟩
    · obtain ⟨polarity, hpolarity⟩ := hopens
      exact hnames.noPolarity polarity hpolarity
  · push Not at hopens
    refine .inl ⟨?_, hopens⟩
    simpa using decode_of_namesComparator ⟨hopens, hType, htext⟩

/-! ## A condition behind a polarity and an underscore -/

lemma Polarity.opensLongest_separated_iff {polarity : Polarity} {spelling : List Char} :
    polarity.OpensLongest (polarity.spelling.toList ++ '_' :: spelling) ↔
      ¬ (polarity = assert ∧ "not".toList <+: spelling) := by
  have hnot : assertNot.spelling.toList = assert.spelling.toList ++ '_' :: "not".toList := by decide
  constructor
  · rintro h ⟨rfl, rest, rfl⟩
    have hopens : assertNot.spelling.toList <+:
        assert.spelling.toList ++ '_' :: ("not".toList ++ rest) := ⟨rest, by simp [hnot]⟩
    exact absurd (h.longest _ hopens) (by decide)
  · intro h
    refine ⟨List.prefix_append _ _, fun other hother => ?_⟩
    rcases eq_or_of_both_open (List.prefix_append _ _) hother with rfl | ⟨rfl, rfl⟩ |
      ⟨rfl, rfl⟩
    · exact Nat.le_refl _
    · rw [hnot, List.prefix_append_right_inj, List.prefix_cons_inj] at hother
      exact absurd ⟨rfl, hother⟩ h
    · decide

/-- Behind `Assert_`, the letters `not` belong to the polarity. -/
lemma Names.of_assert_not {rest spelling : List Char} {polarity : Polarity} {sense : Sense}
    (h : Names ("Assert_not".toList ++ rest) polarity spelling sense) :
    polarity = .assertNot ∧ Polarity.Separates rest spelling := by
  have hopens : Polarity.assertNot.spelling.toList <+: "Assert_not".toList ++ rest :=
    List.prefix_append _ _
  obtain ⟨⟨hlongest, tail, htail, hseparates⟩, -⟩ :=
    (iff_split?.1 h).imp_left Polarity.split?_eq_some_iff.1
  by_cases hne : Polarity.assertNot = polarity
  · subst hne
    obtain rfl := List.append_cancel_left (htail : "Assert_not".toList ++ rest = _ ++ tail)
    exact ⟨rfl, hseparates⟩
  · cases hlongest.eq_assert_of_ne hopens hne

namespace Name

/-- **The grammar of names.**  A token is decoded to an assertion exactly if it is the name of one,
and then to what its polarity and its condition say; to a comparator exactly if it is the name of
one; it is unrecognized otherwise.  No token is the name of an assertion in two ways.

A condition keeps its reading behind a polarity and an underscore unless the polarity is `Assert`
and the condition starts with `not`.  Such a token is the name of an assertion only in so far as it
reads as `Assert_not` and what follows. -/
theorem decode_grammar :
    (∀ token : String,
      (∀ a, decode token = assertion a ↔ ∃ polarity spelling sense,
        Names token.toList polarity spelling sense ∧ a = sense.assertion token polarity) ∧
      (∀ c, decode token = comparator c ↔ ∃ operandType,
        NamesComparator token.toList operandType ∧ c = .ofType (String.ofList operandType)) ∧
      (∀ text, decode token = unrecognized text ↔ text = token ∧
        (∀ polarity spelling sense, ¬ Names token.toList polarity spelling sense) ∧
        ∀ operandType, ¬ NamesComparator token.toList operandType) ∧
      (∀ polarity spelling sense polarity' spelling' sense',
        Names token.toList polarity spelling sense →
        Names token.toList polarity' spelling' sense' →
        polarity = polarity' ∧ spelling = spelling' ∧ sense = sense')) ∧
    (∀ (polarity : Polarity) (spelling : String) (sense : Sense), Spells spelling.toList sense →
      (decode (polarity.spelling ++ "_" ++ spelling) =
          assertion (sense.assertion (polarity.spelling ++ "_" ++ spelling) polarity) ↔
        ¬ (polarity = .assert ∧ "not".toList <+: spelling.toList)) ∧
      (∀ rest, polarity = .assert → spelling.toList = "not".toList ++ rest →
        ∀ polarity' spelling' sense',
          Names (polarity.spelling ++ "_" ++ spelling).toList polarity' spelling' sense' →
          polarity' = .assertNot ∧ Polarity.Separates rest spelling')) := by
  refine ⟨fun token => ⟨fun a => decode_eq_assertion_iff, fun c => decode_eq_comparator_iff,
    fun text => decode_eq_unrecognized_iff, fun _ _ _ _ _ _ h h' => h.unique h'⟩, ?_⟩
  intro polarity spelling sense hspells
  have htext : (polarity.spelling ++ "_" ++ spelling).toList =
      polarity.spelling.toList ++ '_' :: spelling.toList := by simp
  refine ⟨?_, ?_⟩
  · rw [← Polarity.opensLongest_separated_iff, ← htext, decode_eq_assertion_iff]
    constructor
    · rintro ⟨polarity', spelling', sense', hnames, heq⟩
      have hpolarity : polarity = polarity' := congrArg Assertion.polarity heq
      exact hpolarity ▸ hnames.longest
    · intro hlongest
      exact ⟨polarity, spelling.toList, sense, ⟨hlongest, .inl htext, hspells⟩, rfl⟩
  · rintro rest rfl hrest polarity' spelling' sense' hnames
    have hassert : Polarity.assert.spelling.toList ++ '_' :: ("not".toList ++ rest) =
        "Assert_not".toList ++ rest := rfl
    rw [htext, hrest, hassert] at hnames
    exact hnames.of_assert_not

theorem decode_grammar_notch :
    decode "Fail_if_notchLT" =
        assertion (Sense.assertion (.order "notch" .lt) "Fail_if_notchLT" .failIf) ∧
      decode "Assert_notchLT" ≠
        assertion (Sense.assertion (.order "notch" .lt) "Assert_notchLT" .assert) := by
  have hspells : Spells "notchLT".toList (.order "notch" .lt) :=
    @Spells.typed "notch".toList "LT" .lt (by decide) (by decide)
  refine ⟨((decode_grammar.2 .failIf "notchLT" _ hspells).1).2 (by decide), fun h => ?_⟩
  exact ((decode_grammar.2 .assert "notchLT" _ hspells).1).1 h (by decide)

end Name

end AssertionHeader
