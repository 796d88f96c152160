import AssertionHeader.Proofs.Meaning

/-!
# Reading English clauses

`Statement.ofText?` reads what an English clause says of given operands.  It has a dictionary of its
own, of the phrases that may stand behind or between operands, and knows nothing of the wording that
`Statement.message` chooses; `ofText?_message` says that every statement about the operands, once it
is worded, is read as that statement.
-/

namespace AssertionHeader

/-! ## The dictionary -/

/-- What may be said to relate one operand to another. -/
def Relation.phrases : List (String × Relation) :=
  [(" is less than ", lt), (" is less than or equal to ", le), (" is equal to ", eq),
    (" is greater than or equal to ", ge), (" is greater than ", gt), (" is not equal to ", ne)]

namespace Statement

/-- What may be said of one operand, besides that it has a value. -/
def predicates (operand : String) : List (String × Statement) :=
  [(" is true", truth operand true), (" is false", truth operand false),
    (" failed", failure operand true), (" did not fail", failure operand false),
    (" is NULL", null operand true), (" is not NULL", null operand false)]

/-- What may be said of two operands together. -/
def comparisons (first second : String) : List (String × Statement) :=
  [(" are the same", sameness first second true),
    (" are not the same", sameness first second false)]

/-! ## The reader -/

/-- The number in decimal digits behind an opening. -/
def numberBehind? (opening : String) (text : List Char) : Option Nat :=
  (opening.toList.isPrefixOf? text).bind (Numeral.ofDigits? 10)

/-- What a text says of the one operand that it stands behind. -/
def ofPredicate? (operand : String) (text : List Char) : Option Statement :=
  ((numberBehind? " is not " text).map (number operand · false)).or
    (((numberBehind? " is " text).map (number operand · true)).or
      ((predicates operand).lookup (String.ofList text)))

/-- What a text that starts between two operands, or behind the first of them, says of both. -/
def ofComparison? (first second : String) (text : List Char) : Option Statement :=
  (((" and " ++ second).toList.isPrefixOf? text).bind fun rest =>
      (comparisons first second).lookup (String.ofList rest)).or
    ((second.toList.isSuffixOf? text).bind fun phrase =>
      (Relation.phrases.lookup (String.ofList phrase)).map (order first · second))

/-- What a clause says of the given operands. -/
def ofText? (operands : List String) (text : List Char) : Option Statement :=
  match operands with
  | [operand] => (operand.toList.isPrefixOf? text).bind (ofPredicate? operand)
  | [first, second] => (first.toList.isPrefixOf? text).bind (ofComparison? first second)
  | _ => none

end Statement

/-! ## Wordings are read back -/

namespace Message

lemma toList_plain_text (text : String) (rest : Message) :
    (plain (.text text :: rest)).toList = text.toList ++ rest.plain.toList := by
  simp [plain]

lemma toList_plain_operand (name : String) (rest : Message) :
    (plain (.operand name :: rest)).toList = name.toList ++ rest.plain.toList := by
  simp [plain]

end Message

namespace Statement

/-- The operands that a statement is about. -/
def operands : Statement → List String
  | truth operand _ | failure operand _ | null operand _ | number operand _ _ => [operand]
  | order first _ second | sameness first second _ => [first, second]

lemma numberBehind?_toDigits (opening : String) (n : Nat) :
    numberBehind? opening (opening.toList ++ Nat.toDigits 10 n) = some n := by
  rw [numberBehind?, Text.isPrefixOf?_append]
  exact Numeral.ofDigits?_toDigits (by decide) (by decide) n

/-- A number is not taken for a denial. -/
lemma numberBehind?_not_toDigits (n : Nat) :
    numberBehind? " is not " (" is ".toList ++ Nat.toDigits 10 n) = none := by
  have hprefix : " is not ".toList.isPrefixOf? (" is ".toList ++ Nat.toDigits 10 n) = none := by
    rw [Option.eq_none_iff_forall_ne_some]
    intro rest hrest
    rw [List.isPrefixOf?_eq_some_iff_append_eq,
      show " is not ".toList = " is ".toList ++ "not ".toList by decide, List.append_assoc] at hrest
    have hmem : 'n' ∈ Nat.toDigits 10 n := by simp [← List.append_cancel_left hrest]
    exact absurd (Numeral.digit?_isSome_of_mem_toDigits hmem) (by decide)
  rw [numberBehind?, hprefix, Option.bind_none]

lemma ofPredicate?_number (operand : String) (value : Nat) (holds : Bool) :
    ofPredicate? operand ((if holds then " is " else " is not ").toList ++ Nat.toDigits 10 value) =
      some (number operand value holds) := by
  cases holds with
  | true =>
    rw [ofPredicate?, if_pos rfl, numberBehind?_not_toDigits, numberBehind?_toDigits]
    rfl
  | false =>
    rw [ofPredicate?, if_neg Bool.false_ne_true, numberBehind?_toDigits]
    rfl

lemma phrases_lookup (relation : Relation) :
    Relation.phrases.lookup (" is " ++ relation.phrase ++ " ") = some relation := by
  cases relation <;> decide

lemma ofComparison?_order (first second : String) (relation : Relation) :
    ofComparison? first second ((" is " ++ relation.phrase ++ " ").toList ++ second.toList) =
      some (order first relation second) := by
  have hand : (" and " ++ second).toList.isPrefixOf?
      ((" is " ++ relation.phrase ++ " ").toList ++ second.toList) = none := by
    simp [List.isPrefixOf?]
  have hsuffix : second.toList.isSuffixOf?
      ((" is " ++ relation.phrase ++ " ").toList ++ second.toList) =
        some (" is " ++ relation.phrase ++ " ").toList :=
    List.isSuffixOf?_eq_some_iff_append_eq.2 rfl
  rw [ofComparison?, hand, hsuffix, Option.bind_none, Option.none_or, Option.bind_some,
    String.ofList_toList, phrases_lookup]
  rfl

lemma ofComparison?_sameness (first second : String) (holds : Bool) :
    ofComparison? first second ((" and " ++ second).toList ++
        (if holds then " are the same" else " are not the same").toList) =
      some (sameness first second holds) := by
  rw [ofComparison?, Text.isPrefixOf?_append, Option.bind_some, String.ofList_toList]
  cases holds <;> rfl

lemma ofText?_one (operand : String) (rest : Message) :
    ofText? [operand] (Message.plain (.operand operand :: rest)).toList =
      ofPredicate? operand rest.plain.toList := by
  rw [Message.toList_plain_operand, ofText?, Text.isPrefixOf?_append, Option.bind_some]

lemma ofText?_two (first second : String) (rest : Message) :
    ofText? [first, second] (Message.plain (.operand first :: rest)).toList =
      ofComparison? first second rest.plain.toList := by
  rw [Message.toList_plain_operand, ofText?, Text.isPrefixOf?_append, Option.bind_some]

/-- **The wording of a statement is read as that statement.** -/
lemma ofText?_message (statement : Statement) :
    ofText? statement.operands statement.message.plain.toList = some statement := by
  cases statement with
  | truth operand holds | failure operand holds | null operand holds =>
    rw [operands, message, ofText?_one]
    cases holds <;> rfl
  | number operand value holds =>
    rw [operands, message, ofText?_one, Message.toList_plain_text, ← ofPredicate?_number]
    simp [Message.plain]
  | order first relation second =>
    rw [operands, message, ofText?_two, Message.toList_plain_text, Message.toList_plain_operand,
      ← ofComparison?_order]
    simp [Message.plain]
  | sameness first second holds =>
    rw [operands, message, ofText?_two, Message.toList_plain_text, Message.toList_plain_operand,
      Message.toList_plain_text, ← ofComparison?_sameness]
    simp [Message.plain]

end Statement

end AssertionHeader
