import AssertionHeader.Name
import AssertionHeader.Proofs.Numeral

/-!
# The grammar of spelled conditions

What follows the polarity of a macro name spells a condition.  `Spells text sense` is the grammar of
these spellings: a text spells a `Sense`, which says what is asked of the operands before any
inversion.  The rules of `Reading` are a list in which the first to accept a text decides; the
grammar has no order.

The main statements are `ofSpelling?_eq_some_iff`, by which the rules accept exactly what the
grammar derives and read its sense, and `Spells.unique`, by which no text spells two senses.  Both
rest on the same fact: words, numerals and relations never meet.  A word of the vocabulary is
neither a numeral nor ends in a relation, and every ending that spells a relation has a letter that
no numeral has.
-/

namespace AssertionHeader

/-! ## Senses and their spellings -/

/-- The endings that spell a relation. -/
def Relation.spellings : Relation → List String
  | lt => ["LT"]
  | le => ["LE"]
  | eq => ["Equal", "equal", "EQ"]
  | ge => ["GE"]
  | gt => ["GT"]
  | ne => ["NE"]

/-- What a spelled condition asks of the operands. -/
inductive Sense where
  /-- The expression is true; nothing is spelled. -/
  | plain
  /-- The operation failed, or it succeeded. -/
  | outcome (failed : Bool)
  /-- The expression has the given truth value. -/
  | truth (value : Bool)
  /-- The pointer is `NULL`. -/
  | null
  /-- The expression has the given value. -/
  | number (value : Nat)
  /-- Both operands are the same. -/
  | same
  /-- The operands, of the given type, stand in the relation. -/
  | order (operandType : String) (relation : Relation)
  deriving DecidableEq, Repr

/-- The text spells a condition with the given sense. -/
inductive Spells : List Char → Sense → Prop where
  | nothing : Spells [] .plain
  | failure {word : String} (h : word ∈ ["Error", "error", "Failure", "failure"]) :
      Spells word.toList (.outcome true)
  | success {word : String} (h : word ∈ ["Success", "success"]) :
      Spells word.toList (.outcome false)
  | affirmed {word : String} (h : word ∈ ["True", "true"]) : Spells word.toList (.truth true)
  | denied {word : String} (h : word ∈ ["False", "false"]) : Spells word.toList (.truth false)
  | null : Spells "NULL".toList .null
  | numeral {text : List Char} {value : Nat} (h : Numeral.value? text = some value) :
      Spells text (.number value)
  | same {word : String} (h : word ∈ ["Same", "same"]) : Spells word.toList .same
  | untyped {ending : String} {relation : Relation} (h : ending ∈ relation.spellings) :
      Spells ending.toList (.order "Number" relation)
  | typed {operandType : List Char} {ending : String} {relation : Relation}
      (hType : Identifier.isIdentifier operandType = true) (h : ending ∈ relation.spellings) :
      Spells (operandType ++ ending.toList) (.order (String.ofList operandType) relation)

namespace Sense

/-- The condition that a sense becomes under a polarity. -/
def condition (inverts : Bool) : Sense → Condition
  | plain => .boolean
  | outcome _ => .status
  | truth _ => .truth
  | null => .null (.ofInvert inverts)
  | number value => .literal value (.ofInvert inverts)
  | same => .identity (.ofInvert inverts)
  | order _ relation => .order relation

/-- Whether the sense asks for the contrary of what its condition tests. -/
def isContrary : Sense → Bool
  | outcome failed => !failed
  | truth value => !value
  | order _ relation => relation.isNegated
  | plain | null | number _ | same => false

/-- The type that the operands have. -/
def operandType : Sense → String
  | order operandType _ => operandType
  | plain | outcome _ | truth _ | null | number _ | same => "Number"

/-- The place of the rule that is for the sense, in the list of rules. -/
def place : Sense → Nat
  | plain => 0
  | outcome _ => 1
  | truth _ => 2
  | null => 3
  | number _ => 4
  | same => 5
  | order _ _ => 6

/-- The reading of a sense: of two inversions that the condition does not express, each undoes the
other. -/
def reading (sense : Sense) (inverts : Bool) : Reading :=
  ⟨sense.condition inverts,
    !(sense.condition inverts).expressesInversion && (inverts != sense.isContrary),
    sense.operandType⟩

lemma reading_injective {inverts : Bool} {s t : Sense}
    (h : s.reading inverts = t.reading inverts) : s = t := by
  cases s <;> cases t <;>
    simp_all [reading, condition, isContrary, operandType, Condition.expressesInversion]

end Sense

/-- The type of the operands is an identifier. -/
lemma Spells.isIdentifier_operandType {text : List Char} {sense : Sense} (h : Spells text sense) :
    Identifier.isIdentifier sense.operandType.toList = true := by
  have hdefault : Identifier.isIdentifier "Number".toList = true := by decide
  cases h with
  | typed hType _ => simpa [Sense.operandType] using hType
  | nothing | failure | success | affirmed | denied | null | numeral | same | untyped =>
    exact hdefault

/-! ## Relations at the end of a text -/

namespace Relation

lemma mem_endings_iff {ending : String} {relation : Relation} :
    (ending, relation) ∈ endings ↔ ending ∈ relation.spellings := by
  cases relation <;> simp [endings, spellings]

/-- No ending of the table stands at the end of another one. -/
lemma endings_suffix_free :
    ∀ a ∈ endings, ∀ b ∈ endings, a.1.toList <:+ b.1.toList → a = b := by
  decide

/-- No two endings close the same text, since one of them would close the other. -/
lemma eq_of_both_close {a b : String × Relation} {text : List Char} (ha : a ∈ endings)
    (hb : b ∈ endings) (haclose : a.1.toList <:+ text) (hbclose : b.1.toList <:+ text) : a = b := by
  rcases List.suffix_or_suffix_of_suffix haclose hbclose with h | h
  · exact endings_suffix_free a ha b hb h
  · exact (endings_suffix_free b hb a ha h).symm

lemma splitEnding?_append {front : List Char} {ending : String} {relation : Relation}
    (h : (ending, relation) ∈ endings) :
    splitEnding? (front ++ ending.toList) = some (front, relation) := by
  obtain ⟨found, hfound⟩ : ∃ found, splitEnding? (front ++ ending.toList) = some found := by
    rw [← Option.isSome_iff_exists, splitEnding?, splitBy?, List.findSome?_isSome_iff]
    exact ⟨_, h, by simp⟩
  obtain ⟨⟨other, relation'⟩, hother, hmap⟩ := List.exists_of_findSome?_eq_some hfound
  obtain ⟨front', hfront', rfl⟩ := Option.map_eq_some_iff.1 hmap
  rw [List.isSuffixOf?_eq_some_iff_append_eq] at hfront'
  have hsame : (other, relation') = (ending, relation) :=
    eq_of_both_close hother h ⟨front', hfront'⟩ (List.suffix_append front ending.toList)
  obtain ⟨rfl, rfl⟩ := Prod.mk.injEq .. ▸ hsame
  rw [hfound, List.append_cancel_right hfront']

/-- A text is split at its end exactly where one of the endings stands. -/
lemma splitEnding?_eq_some_iff {text front : List Char} {relation : Relation} :
    splitEnding? text = some (front, relation) ↔
      ∃ ending ∈ relation.spellings, text = front ++ ending.toList := by
  constructor
  · intro h
    obtain ⟨⟨ending, relation'⟩, hmem, hmap⟩ := List.exists_of_findSome?_eq_some h
    obtain ⟨front', hfront', heq⟩ := Option.map_eq_some_iff.1 hmap
    obtain ⟨rfl, rfl⟩ := Prod.mk.injEq .. ▸ heq
    rw [List.isSuffixOf?_eq_some_iff_append_eq] at hfront'
    exact ⟨ending, mem_endings_iff.1 hmem, hfront'.symm⟩
  · rintro ⟨ending, hmem, rfl⟩
    exact splitEnding?_append (mem_endings_iff.2 hmem)

end Relation

/-! ## Words, numerals and relations never meet -/

namespace Numeral

/-- What has the characters of a numeral ends in no relation: `E` is a hexadecimal digit, but every
ending has a letter that is none. -/
lemma splitEnding?_eq_none {text : List Char}
    (h : ∀ c ∈ text, (digit? c).isSome = true ∨ c = 'x') : Relation.splitEnding? text = none := by
  have hforeign : ∀ entry ∈ Relation.endings,
      (entry.1.toList.any fun c => !(digit? c).isSome && c != 'x') = true := by
    decide
  rw [Option.eq_none_iff_forall_ne_some]
  rintro ⟨front, relation⟩ hsplit
  obtain ⟨ending, hmem, rfl⟩ := Relation.splitEnding?_eq_some_iff.1 hsplit
  obtain ⟨c, hc, hdigit⟩ := List.any_eq_true.1 (hforeign _ (Relation.mem_endings_iff.2 hmem))
  rw [Bool.and_eq_true, Bool.not_eq_true', bne_iff_ne] at hdigit
  rcases h c (List.mem_append_right _ hc) with hsome | rfl
  · rw [hdigit.1] at hsome
    cases hsome
  · exact hdigit.2 rfl

lemma value?_eq_none_of_splitEnding? {text : List Char} {split : List Char × Relation}
    (h : Relation.splitEnding? text = some split) : value? text = none := by
  rw [Option.eq_none_iff_forall_ne_some]
  intro n hn
  rw [splitEnding?_eq_none (digit_or_x_of_value? hn)] at h
  cases h

end Numeral

namespace Reading

/-- The vocabulary: the spellings of all conditions but numerals and relations. -/
def words : List String :=
  "" :: failureWords ++ successWords ++ trueWords ++ falseWords ++ "NULL" :: identityWords

lemma value?_word : ∀ word ∈ words, Numeral.value? word.toList = none := by
  decide

lemma splitEnding?_word : ∀ word ∈ words, Relation.splitEnding? word.toList = none := by
  decide

/-- Outside the vocabulary, only the rules for numerals and relations are left. -/
lemma ofSpelling?_of_not_word {text : List Char} (h : String.ofList text ∉ words)
    (inverts : Bool) :
    ofSpelling? text inverts = (literalRule text inverts <|> orderRule text inverts) := by
  simp only [words, List.mem_append, List.mem_cons, not_or] at h
  obtain ⟨⟨⟨⟨⟨hempty, hfailure⟩, hsuccess⟩, htrue⟩, hfalse⟩, hnull, hidentity⟩ := h
  have hne : text ≠ [] := by rintro rfl; exact hempty rfl
  have hboolean : booleanRule text inverts = none := by simp [booleanRule, hne]
  have hstatus : statusRule text inverts = none := by simp [statusRule, hfailure, hsuccess]
  have htruth : truthRule text inverts = none := by simp [truthRule, htrue, hfalse]
  have hnone : nullRule text inverts = none := by simp [nullRule, hnull]
  have hsame : identityRule text inverts = none := by simp [identityRule, hidentity]
  simp only [ofSpelling?, byRules?, rules, List.findSome?_cons, hboolean, hstatus, htruth, hnone,
    hsame]
  cases literalRule text inverts <;> cases orderRule text inverts <;> rfl

/-! ## The rules accept exactly the spellings -/

lemma operandType?_of_isIdentifier {front : List Char} (h : Identifier.isIdentifier front = true) :
    operandType? front = some (String.ofList front) := by
  have hne : front ≠ [] := by rintro rfl; simp [Identifier.isIdentifier] at h
  simp [operandType?, hne, h]

lemma orderRule_of_operandType? {front : List Char} {ending operandType : String}
    {relation : Relation} (hmem : ending ∈ relation.spellings)
    (hType : operandType? front = some operandType) (inverts : Bool) :
    ofSpelling? (front ++ ending.toList) inverts =
      some ((Sense.order operandType relation).reading inverts) := by
  have hsplit : Relation.splitEnding? (front ++ ending.toList) = some (front, relation) :=
    Relation.splitEnding?_append (Relation.mem_endings_iff.2 hmem)
  have hword : String.ofList (front ++ ending.toList) ∉ words := by
    intro hin
    have hnone := splitEnding?_word _ hin
    rw [String.toList_ofList, hsplit] at hnone
    cases hnone
  rw [ofSpelling?_of_not_word hword, literalRule, Numeral.value?_eq_none_of_splitEnding? hsplit]
  simp [orderRule, hsplit, hType, Sense.reading, Sense.condition, Sense.isContrary,
    Sense.operandType, Condition.expressesInversion]

/-- Every spelling is accepted, and read by its sense. -/
lemma ofSpelling?_of_spells {text : List Char} {sense : Sense} (h : Spells text sense)
    (inverts : Bool) : ofSpelling? text inverts = some (sense.reading inverts) := by
  cases h with
  | nothing => cases inverts <;> rfl
  | @failure word | @success word | @affirmed word | @denied word | @same word =>
    revert inverts
    revert word
    decide
  | null => cases inverts <;> decide
  | numeral h =>
    have hword : String.ofList text ∉ words := by
      intro hin
      have hnone := value?_word _ hin
      rw [String.toList_ofList, h] at hnone
      cases hnone
    rw [ofSpelling?_of_not_word hword]
    simp [literalRule, h, plain, defaultType, Sense.reading, Sense.condition, Sense.operandType,
      Condition.expressesInversion]
  | untyped h =>
    exact @orderRule_of_operandType? [] _ _ _ h rfl inverts
  | typed hType h =>
    exact orderRule_of_operandType? h (operandType?_of_isIdentifier hType) inverts

section

variable {text : List Char} {inverts : Bool} {reading : Reading}

lemma spells_of_ofList {sense : Sense} (h : Spells (String.ofList text).toList sense) :
    Spells text sense := by
  simpa using h

lemma booleanRule_spells (h : booleanRule text inverts = some reading) :
    Spells text .plain ∧ reading = Sense.plain.reading inverts := by
  obtain ⟨hempty, heq⟩ := Option.ite_none_right_eq_some.1 h
  obtain rfl := List.isEmpty_iff.1 hempty
  cases heq
  exact ⟨.nothing, by cases inverts <;> rfl⟩

/-- A rule by words for a condition and words for its contrary. -/
lemma spells_of_words {words contrary : List String} {condition : Condition} {sense : Bool → Sense}
    (hwords : ∀ word ∈ words, Spells word.toList (sense true))
    (hcontrary : ∀ word ∈ contrary, Spells word.toList (sense false))
    (hreading : ∀ value, (sense value).reading inverts = plain condition (inverts != !value))
    (h : (if String.ofList text ∈ words then some (plain condition inverts)
      else if String.ofList text ∈ contrary then some (plain condition !inverts) else none) =
        some reading) :
    ∃ value, Spells text (sense value) ∧ reading = (sense value).reading inverts := by
  split at h
  · next hmem =>
    obtain rfl := Option.some.inj h
    exact ⟨true, spells_of_ofList (hwords _ hmem), by simp [hreading]⟩
  · obtain ⟨hmem, heq⟩ := Option.ite_none_right_eq_some.1 h
    obtain rfl := Option.some.inj heq
    exact ⟨false, spells_of_ofList (hcontrary _ hmem), by simp [hreading]⟩

lemma statusRule_spells (h : statusRule text inverts = some reading) :
    ∃ failed, Spells text (.outcome failed) ∧ reading = (Sense.outcome failed).reading inverts :=
  spells_of_words (fun _ => .failure) (fun _ => .success) (fun _ => rfl) h

lemma truthRule_spells (h : truthRule text inverts = some reading) :
    ∃ value, Spells text (.truth value) ∧ reading = (Sense.truth value).reading inverts :=
  spells_of_words (fun _ => .affirmed) (fun _ => .denied) (fun _ => rfl) h

lemma nullRule_spells (h : nullRule text inverts = some reading) :
    Spells text .null ∧ reading = Sense.null.reading inverts := by
  obtain ⟨hword, heq⟩ := Option.ite_none_right_eq_some.1 h
  cases heq
  exact ⟨spells_of_ofList (hword ▸ .null), rfl⟩

lemma literalRule_spells (h : literalRule text inverts = some reading) :
    ∃ value, Spells text (.number value) ∧ reading = (Sense.number value).reading inverts := by
  obtain ⟨value, hvalue, rfl⟩ := Option.map_eq_some_iff.1 h
  exact ⟨value, .numeral hvalue, rfl⟩

lemma identityRule_spells (h : identityRule text inverts = some reading) :
    Spells text .same ∧ reading = Sense.same.reading inverts := by
  obtain ⟨hmem, heq⟩ := Option.ite_none_right_eq_some.1 h
  cases heq
  exact ⟨spells_of_ofList (.same hmem), rfl⟩

lemma spells_of_operandType? {front : List Char} {ending operandType : String} {relation : Relation}
    (hmem : ending ∈ relation.spellings) (h : operandType? front = some operandType) :
    Spells (front ++ ending.toList) (.order operandType relation) := by
  unfold operandType? at h
  split at h
  · next hempty =>
    obtain rfl := List.isEmpty_iff.1 hempty
    cases h
    exact .untyped hmem
  · obtain ⟨hident, heq⟩ := Option.ite_none_right_eq_some.1 h
    cases heq
    exact .typed hident hmem

lemma orderRule_spells (h : orderRule text inverts = some reading) :
    ∃ operandType relation, Spells text (.order operandType relation) ∧
      reading = (Sense.order operandType relation).reading inverts := by
  obtain ⟨⟨front, relation⟩, hsplit, htype⟩ := Option.bind_eq_some_iff.1 h
  obtain ⟨operandType, htype, heq⟩ := Option.map_eq_some_iff.1 htype
  obtain ⟨ending, hmem, rfl⟩ := Relation.splitEnding?_eq_some_iff.1 hsplit
  refine ⟨operandType, relation, spells_of_operandType? hmem htype, ?_⟩
  simp [← heq, Sense.reading, Sense.condition, Sense.isContrary, Sense.operandType,
    Condition.expressesInversion]

/-- What any of the rules accepts is spelled by the grammar, with a sense that the rule is for. -/
lemma spells_of_getElem?_rules {place : Nat} {rule : Rule} (hrule : rules[place]? = some rule)
    (h : rule text inverts = some reading) :
    ∃ sense, Spells text sense ∧ reading = sense.reading inverts ∧ sense.place = place := by
  match place with
  | 0 =>
    cases hrule
    obtain ⟨hspells, hreading⟩ := booleanRule_spells h
    exact ⟨_, hspells, hreading, rfl⟩
  | 1 =>
    cases hrule
    obtain ⟨failed, hspells, hreading⟩ := statusRule_spells h
    exact ⟨_, hspells, hreading, rfl⟩
  | 2 =>
    cases hrule
    obtain ⟨value, hspells, hreading⟩ := truthRule_spells h
    exact ⟨_, hspells, hreading, rfl⟩
  | 3 =>
    cases hrule
    obtain ⟨hspells, hreading⟩ := nullRule_spells h
    exact ⟨_, hspells, hreading, rfl⟩
  | 4 =>
    cases hrule
    obtain ⟨value, hspells, hreading⟩ := literalRule_spells h
    exact ⟨_, hspells, hreading, rfl⟩
  | 5 =>
    cases hrule
    obtain ⟨hspells, hreading⟩ := identityRule_spells h
    exact ⟨_, hspells, hreading, rfl⟩
  | 6 =>
    cases hrule
    obtain ⟨operandType, relation, hspells, hreading⟩ := orderRule_spells h
    exact ⟨_, hspells, hreading, rfl⟩
  | _ + 7 => cases hrule

/-- What any of the rules accepts is spelled by the grammar. -/
lemma spells_of_mem_rules {rule : Rule} (hrule : rule ∈ rules)
    (h : rule text inverts = some reading) :
    ∃ sense, Spells text sense ∧ reading = sense.reading inverts := by
  obtain ⟨place, hplace⟩ := List.mem_iff_getElem?.1 hrule
  obtain ⟨sense, hspells, hreading, -⟩ := spells_of_getElem?_rules hplace h
  exact ⟨sense, hspells, hreading⟩

end

/-- **The rules accept exactly what the grammar derives.** -/
theorem ofSpelling?_eq_some_iff {text : List Char} {inverts : Bool} {reading : Reading} :
    ofSpelling? text inverts = some reading ↔
      ∃ sense, Spells text sense ∧ reading = sense.reading inverts := by
  constructor
  · intro h
    obtain ⟨rule, hrule, haccept⟩ := List.exists_of_findSome?_eq_some h
    exact spells_of_mem_rules hrule haccept
  · rintro ⟨sense, hspells, rfl⟩
    exact ofSpelling?_of_spells hspells inverts

lemma ofSpelling?_eq_none_iff {text : List Char} {inverts : Bool} :
    ofSpelling? text inverts = none ↔ ∀ sense, ¬ Spells text sense := by
  simp only [Option.eq_none_iff_forall_ne_some, ne_eq, ofSpelling?_eq_some_iff]
  constructor
  · exact fun h sense hspells => h _ ⟨sense, hspells, rfl⟩
  · rintro h _ ⟨sense, hspells, -⟩
    exact h sense hspells

end Reading

/-- What is spelled is a word of the vocabulary, a numeral, or a relation behind an identifier or
behind nothing. -/
lemma Spells.word_or_numeral_or_order {text : List Char} {sense : Sense} (h : Spells text sense) :
    (∃ word ∈ Reading.words, text = word.toList) ∨ (∃ n, Numeral.value? text = some n) ∨
      ∃ (front : List Char) (ending : String) (relation : Relation),
        (front = [] ∨ Identifier.isIdentifier front = true) ∧ ending ∈ relation.spellings ∧
          text = front ++ ending.toList := by
  have hwords : ∀ {list : List String} {word : String}, list ⊆ Reading.words → word ∈ list →
      ∃ word' ∈ Reading.words, word.toList = word'.toList :=
    fun hsubset hword => ⟨_, hsubset hword, rfl⟩
  cases h with
  | nothing => exact .inl ⟨"", by decide, rfl⟩
  | failure hword | success hword | affirmed hword | denied hword | same hword =>
    exact .inl (hwords (by decide) hword)
  | null => exact .inl ⟨"NULL", by decide, rfl⟩
  | numeral hvalue => exact .inr (.inl ⟨_, hvalue⟩)
  | untyped hmem => exact .inr (.inr ⟨[], _, _, .inl rfl, hmem, rfl⟩)
  | typed hType hmem => exact .inr (.inr ⟨_, _, _, .inr hType, hmem, rfl⟩)

/-- **A text spells at most one sense.** -/
theorem Spells.unique {text : List Char} {s t : Sense} (hs : Spells text s) (ht : Spells text t) :
    s = t := by
  have hread := Reading.ofSpelling?_of_spells hs false
  rw [Reading.ofSpelling?_of_spells ht false] at hread
  exact (Sense.reading_injective (Option.some.inj hread)).symm

end AssertionHeader
