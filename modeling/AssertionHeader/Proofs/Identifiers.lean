import AssertionHeader.Proofs.Grammar

/-!
# Names of macros are identifiers

Whatever spells an assertion or a comparator is made of letters, digits and underscores and does not
open with a digit.  So a token that is no identifier is unrecognized
(`Name.decode_of_not_isIdentifier`).  The operands of a macro are identifiers too, since they are
named after an operand type (`Condition.isIdentifier_operandNames`).
-/

namespace AssertionHeader

namespace Identifier

lemma isPart_of_digit? {c : Char} (h : (Numeral.digit? c).isSome = true) : isPart c = true := by
  have hrange : ('0' ≤ c ∧ c ≤ '9') ∨ ('a' ≤ c ∧ c ≤ 'z') ∨ ('A' ≤ c ∧ c ≤ 'Z') := by
    unfold Numeral.digit? at h
    split at h
    · next hdigit => exact .inl hdigit
    · split at h
      · next hlower => exact .inr (.inl ⟨hlower.1, Char.le_trans hlower.2 (by decide)⟩)
      · split at h
        · next hupper => exact .inr (.inr ⟨hupper.1, Char.le_trans hupper.2 (by decide)⟩)
        · cases h
  rcases hrange with hdigit | hlower | hupper
  · have hc : c.isDigit = true := Char.isDigit_iff_toNat.2 hdigit
    simp [isPart, Char.isAlphanum, hc]
  · have hc : c.isLower = true :=
      Bool.and_eq_true_iff.2 ⟨decide_eq_true hlower.1, decide_eq_true hlower.2⟩
    have halpha : c.isAlpha = true := Bool.or_eq_true_iff.2 (.inr hc)
    simp [isPart, Char.isAlphanum, halpha]
  · have hc : c.isUpper = true := decide_eq_true hupper
    have halpha : c.isAlpha = true := Bool.or_eq_true_iff.2 (.inl hc)
    simp [isPart, Char.isAlphanum, halpha]

end Identifier

/-- The spelling of a condition has letters, digits and underscores only. -/
lemma Spells.all_isPart {text : List Char} {sense : Sense} (h : Spells text sense) :
    text.all Identifier.isPart = true := by
  have hwords : ∀ word ∈ Reading.words, word.toList.all Identifier.isPart = true := by decide
  have hendings : ∀ entry ∈ Relation.endings, entry.1.toList.all Identifier.isPart = true := by
    decide
  rcases h.word_or_numeral_or_order with ⟨word, hword, rfl⟩ | ⟨n, hn⟩ |
    ⟨front, ending, relation, hfront, hmem, rfl⟩
  · exact hwords word hword
  · rw [List.all_eq_true]
    intro c hc
    rcases Numeral.digit_or_x_of_value? hn c hc with hdigit | rfl
    · exact Identifier.isPart_of_digit? hdigit
    · decide
  · rw [List.all_append, hendings _ (Relation.mem_endings_iff.2 hmem), Bool.and_true]
    rcases hfront with rfl | hType
    · rfl
    · exact Identifier.all_isPart_of_isIdentifier hType

lemma Names.isIdentifier {token spelling : List Char} {polarity : Polarity} {sense : Sense}
    (h : Names token polarity spelling sense) : Identifier.isIdentifier token = true := by
  have hpolarity : Identifier.isIdentifier polarity.spelling.toList = true := by
    cases polarity <;> decide
  have hspelling := h.spells.all_isPart
  have hunderscore : Identifier.isPart '_' = true := by decide
  rcases h.separated with rfl | ⟨rfl, -⟩
  · refine Identifier.isIdentifier_append hpolarity ?_
    rw [List.all_cons, hunderscore, hspelling, Bool.true_and]
  · exact Identifier.isIdentifier_append hpolarity hspelling

lemma NamesComparator.isIdentifier_token {token operandType : List Char}
    (h : NamesComparator token operandType) : Identifier.isIdentifier token = true := by
  rw [h.ending]
  exact Identifier.isIdentifier_append h.isIdentifier (by decide)

lemma Condition.isIdentifier_operandNames (condition : Condition) {operandType : String}
    (hType : Identifier.isIdentifier operandType.toList = true) :
    ∀ operand ∈ condition.operandNames operandType,
      Identifier.isIdentifier operand.toList = true := by
  have hnumbered : ∀ digit ∈ ["1", "2"],
      Identifier.isIdentifier (operandType ++ digit).toList = true := by
    intro digit hdigit
    rw [String.toList_append]
    refine Identifier.isIdentifier_append hType ?_
    revert digit
    decide
  have hfixed : ∀ name ∈ ["expr", "arg1", "arg2"],
      Identifier.isIdentifier name.toList = true := by
    decide
  cases condition <;> simp_all [operandNames]

namespace Name

lemma isIdentifier_of_ne {token : String} (h : decode token ≠ unrecognized token) :
    Identifier.isIdentifier token.toList = true := by
  rcases decode_cases token with ⟨_, _, _, hnames, -⟩ | ⟨_, hnames, -⟩ | ⟨-, -, hdecode⟩
  · exact hnames.isIdentifier
  · exact hnames.isIdentifier_token
  · exact absurd hdecode h

/-- A token that is no identifier spells nothing. -/
lemma decode_of_not_isIdentifier {token : String}
    (h : Identifier.isIdentifier token.toList = false) : decode token = unrecognized token := by
  by_contra hne
  rw [isIdentifier_of_ne hne] at h
  cases h

end Name

end AssertionHeader
