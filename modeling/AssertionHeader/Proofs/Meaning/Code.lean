import AssertionHeader.Proofs.Meaning

/-!
# Reading C expressions

`Expression.ofText?` reads the text of a test by the rules of C, as far as tests use them.  A `!`
binds tighter than a comparison, so it negates the test in the parentheses directly behind it; a
text such as `!(expr) == NULL` is not read at all, since it does not negate the comparison.  A
constant has the base that its digits show.  The condition of a failure test is whatever the
settings say, and is taken as it stands.

`ofText?_text` reads back the text of an expression whose operands are identifiers, unless it
negates a test that has no parentheses around it.  No expression of an assertion does
(`Assertion.isEnclosed_of_negated`).
-/

namespace AssertionHeader

/-! ## Names and constants -/

namespace Identifier

/-- The identifier that a text opens with, and what follows the mark behind it. -/
def readUpTo? (mark : Char) (text : List Char) : Option (String × List Char) :=
  match text.dropWhile isPart with
  | [] => none
  | c :: rest =>
    if isIdentifier (text.takeWhile isPart) ∧ c = mark then
      some (String.ofList (text.takeWhile isPart), rest)
    else none

lemma readUpTo?_append {name : String} {mark : Char} {rest : List Char}
    (hname : isIdentifier name.toList = true) (hmark : isPart mark = false) :
    readUpTo? mark (name.toList ++ mark :: rest) = some (name, rest) := by
  have hparts : ∀ c ∈ name.toList, isPart c = true :=
    List.all_eq_true.1 (all_isPart_of_isIdentifier hname)
  simp [readUpTo?, List.takeWhile_append_of_pos hparts, List.dropWhile_append_of_pos hparts, hname,
    hmark]

lemma readUpTo?_other {name : String} {mark c : Char} {rest : List Char}
    (hname : isIdentifier name.toList = true) (hc : isPart c = false) (hne : c ≠ mark) :
    readUpTo? mark (name.toList ++ c :: rest) = none := by
  have hparts : ∀ c ∈ name.toList, isPart c = true :=
    List.all_eq_true.1 (all_isPart_of_isIdentifier hname)
  simp [readUpTo?, List.dropWhile_append_of_pos hparts, hc, hne]

lemma readUpTo?_cons {mark c : Char} {rest : List Char} (hc : isPart c = false) :
    readUpTo? mark (c :: rest) = none := by
  simp [readUpTo?, hc, isIdentifier]

end Identifier

/-- The value of an integer constant, of whatever size. -/
def Numeral.constant? (text : List Char) : Option Nat :=
  ofDigits? (splitBase text).1 (splitBase text).2

lemma Numeral.constant?_toDigits (n : Nat) : constant? (Nat.toDigits 10 n) = some n := by
  simp [constant?, splitBase_toDigits, ofDigits?_toDigits]

/-! ## Operators -/

/-- The comparisons with zero, up to the parenthesis that closes the test. -/
def Relation.zeroTests : List (String × Relation) :=
  [(" < 0)", lt), (" <= 0)", le), (" == 0)", eq), (" >= 0)", ge), (" > 0)", gt), (" != 0)", ne)]

/-- The operator that a text opens with, and what follows it. -/
def Equality.splitSymbol? : List Char → Option (Equality × List Char)
  | ' ' :: '=' :: '=' :: ' ' :: text => some (equal, text)
  | ' ' :: '!' :: '=' :: ' ' :: text => some (notEqual, text)
  | _ => none

lemma Relation.zeroTests_lookup (relation : Relation) :
    zeroTests.lookup (" " ++ (relation.symbol ++ " 0)")) = some relation := by
  cases relation <;> decide

lemma Equality.splitSymbol?_append (equality : Equality) (text : List Char) :
    splitSymbol? (' ' :: (equality.symbol.toList ++ ' ' :: text)) = some (equality, text) := by
  cases equality <;> rfl

/-! ## Tests -/

namespace Test

/-- What an operand is compared with: `NULL`, another operand or a constant. -/
def ofComparand? (operand : String) (equality : Equality) : List Char → Option Test
  | ['N', 'U', 'L', 'L'] => some (.null operand equality)
  | '(' :: text =>
    (Identifier.readUpTo? ')' text).bind fun (second, rest) =>
      if rest.isEmpty then some (.identity operand equality second) else none
  | text => (Numeral.constant? text).map (.literal operand equality)

/-- A comparison, behind the parenthesis that opens its first operand. -/
def ofComparison? (text : List Char) : Option Test :=
  (Identifier.readUpTo? ')' text).bind fun (operand, text) =>
    (Equality.splitSymbol? text).bind fun (equality, text) => ofComparand? operand equality text

/-- An operand in parentheses, behind the opening one. -/
def ofOperand? (text : List Char) : Option Test :=
  (Identifier.readUpTo? ')' text).bind fun (operand, rest) =>
    if rest.isEmpty then some (.truth operand) else none

/-- A call that is compared with zero, in parentheses and behind the opening one. -/
def ofCall? (text : List Char) : Option Test :=
  (Identifier.readUpTo? '(' text).bind fun (comparator, text) =>
    (Identifier.readUpTo? ',' text).bind fun (first, text) =>
      (Identifier.readUpTo? ')' text).bind fun (second, text) =>
        (Relation.zeroTests.lookup (String.ofList text)).map (.order comparator first second)

/-- An operand with the given condition, in parentheses and behind the opening one. -/
def ofOutcome? (failureCondition : String) : List Char → Option Test
  | '(' :: text =>
    (Identifier.readUpTo? ')' text).bind fun (operand, text) =>
      if text = ' ' :: failureCondition.toList ++ [')'] then
        some (.failure operand failureCondition)
      else none
  | _ => none

/-- A test in parentheses. -/
def ofEnclosed? (failureCondition : String) : List Char → Option Test
  | '(' :: text => (ofOperand? text).or ((ofCall? text).or (ofOutcome? failureCondition text))
  | _ => none

/-- A test. -/
def ofText? (failureCondition : String) : List Char → Option Test
  | '(' :: text => (ofComparison? text).or (ofEnclosed? failureCondition ('(' :: text))
  | _ => none

/-- Whether the whole test stands in parentheses. -/
def isEnclosed : Test → Bool
  | truth _ | failure _ _ | order _ _ _ _ => true
  | null _ _ | literal _ _ _ | identity _ _ _ => false

/-- The operands of the test and the comparator that it calls. -/
def names : Test → List String
  | truth operand | failure operand _ | null operand _ | literal operand _ _ => [operand]
  | order comparator first second _ => [comparator, first, second]
  | identity first _ second => [first, second]

/-- The test is made of identifiers, and of the given condition where it is one of failure. -/
structure IsWellFormed (failureCondition : String) (test : Test) : Prop where
  names : ∀ name ∈ test.names, Identifier.isIdentifier name.toList = true
  condition : ∀ operand condition, test = .failure operand condition → condition = failureCondition

variable {failureCondition : String} {test : Test}

lemma ofEnclosed?_text (h : test.IsWellFormed failureCondition)
    (henclosed : test.isEnclosed = true) :
    ofEnclosed? failureCondition test.text.toList = some test := by
  obtain ⟨hnames, hcondition⟩ := h
  have hopen : Identifier.isPart '(' = false := by decide
  have hcomma : Identifier.isPart ',' = false := by decide
  have hclose : Identifier.isPart ')' = false := by decide
  cases test with
  | truth operand =>
    simp only [names, List.mem_singleton, forall_eq] at hnames
    simp [text, ofEnclosed?, ofOperand?, Identifier.readUpTo?_append hnames hclose]
  | failure operand condition =>
    obtain rfl := hcondition _ _ rfl
    simp only [names, List.mem_singleton, forall_eq] at hnames
    simp [text, ofEnclosed?, ofOperand?, ofCall?, ofOutcome?, Identifier.readUpTo?_cons hopen,
      Identifier.readUpTo?_append hnames hclose]
  | order comparator first second relation =>
    simp only [names, List.mem_cons, List.not_mem_nil, or_false, forall_eq_or_imp, forall_eq]
      at hnames
    obtain ⟨hcomparator, hfirst, hsecond⟩ := hnames
    have hcall : ofOperand? (comparator.toList ++ '(' :: (first.toList ++ ',' ::
        (second.toList ++ ')' :: ' ' :: (relation.symbol.toList ++ [' ', '0', ')'])))) = none := by
      simp [ofOperand?, Identifier.readUpTo?_other hcomparator hopen (show '(' ≠ ')' by decide)]
    simp [text, ofEnclosed?, hcall, ofCall?, Identifier.readUpTo?_append hcomparator hopen,
      Identifier.readUpTo?_append hfirst hcomma, Identifier.readUpTo?_append hsecond hclose,
      Relation.zeroTests_lookup]
  | null | literal | identity => cases henclosed

/-- A decimal rendering is neither `NULL` nor an operand in parentheses. -/
lemma ofComparand?_toDigits (operand : String) (equality : Equality) (n : Nat) :
    ofComparand? operand equality (Nat.toDigits 10 n) = some (.literal operand equality n) := by
  unfold ofComparand?
  split
  · next heq =>
    have hmem : 'N' ∈ Nat.toDigits 10 n := by simp [heq]
    exact absurd (Numeral.digit?_isSome_of_mem_toDigits hmem) (by decide)
  · next heq =>
    have hmem : '(' ∈ Nat.toDigits 10 n := by simp [heq]
    exact absurd (Numeral.digit?_isSome_of_mem_toDigits hmem) (by decide)
  · rw [Numeral.constant?_toDigits]
    rfl

lemma ofComparison?_text (h : test.IsWellFormed failureCondition)
    (henclosed : test.isEnclosed = false) :
    ∃ text, test.text.toList = '(' :: text ∧ ofComparison? text = some test := by
  obtain ⟨hnames, -⟩ := h
  have hclose : Identifier.isPart ')' = false := by decide
  cases test with
  | truth | failure | order => cases henclosed
  | null operand equality =>
    simp only [names, List.mem_singleton, forall_eq] at hnames
    refine ⟨operand.toList ++ ')' :: ' ' :: (equality.symbol.toList ++ ' ' :: "NULL".toList),
      by simp [text], ?_⟩
    simp [ofComparison?, Identifier.readUpTo?_append hnames hclose, Equality.splitSymbol?_append,
      ofComparand?]
  | literal operand equality value =>
    simp only [names, List.mem_singleton, forall_eq] at hnames
    refine ⟨operand.toList ++ ')' :: ' ' ::
      (equality.symbol.toList ++ ' ' :: Nat.toDigits 10 value), by simp [text], ?_⟩
    simp [ofComparison?, Identifier.readUpTo?_append hnames hclose, Equality.splitSymbol?_append,
      ofComparand?_toDigits]
  | identity first equality second =>
    simp only [names, List.mem_cons, List.not_mem_nil, or_false, forall_eq_or_imp, forall_eq]
      at hnames
    refine ⟨first.toList ++ ')' :: ' ' :: (equality.symbol.toList ++ ' ' :: '(' ::
      (second.toList ++ [')'])), by simp [text], ?_⟩
    simp [ofComparison?, Identifier.readUpTo?_append hnames.1 hclose,
      Identifier.readUpTo?_append hnames.2 hclose, Equality.splitSymbol?_append, ofComparand?]

/-- What stands in parentheses is no comparison of an operand. -/
lemma ofComparison?_eq_none (h : test.IsWellFormed failureCondition)
    (henclosed : test.isEnclosed = true) :
    ∃ text, test.text.toList = '(' :: text ∧ ofComparison? text = none := by
  obtain ⟨hnames, -⟩ := h
  have hopen : Identifier.isPart '(' = false := by decide
  have hclose : Identifier.isPart ')' = false := by decide
  cases test with
  | truth operand =>
    simp only [names, List.mem_singleton, forall_eq] at hnames
    refine ⟨operand.toList ++ [')'], by simp [text], ?_⟩
    simp [ofComparison?, Identifier.readUpTo?_append hnames hclose, Equality.splitSymbol?]
  | failure operand condition =>
    refine ⟨'(' :: (operand.toList ++ ')' :: ' ' :: (condition.toList ++ [')'])),
      by simp [text], ?_⟩
    simp [ofComparison?, Identifier.readUpTo?_cons hopen]
  | order comparator first second relation =>
    simp only [names, List.mem_cons, List.not_mem_nil, or_false, forall_eq_or_imp, forall_eq]
      at hnames
    refine ⟨comparator.toList ++ '(' :: (first.toList ++ ',' :: (second.toList ++
      ')' :: ' ' :: (relation.symbol.toList ++ " 0)".toList))), by simp [text], ?_⟩
    simp [ofComparison?, Identifier.readUpTo?_other hnames.1 hopen (show '(' ≠ ')' by decide)]
  | null | literal | identity => cases henclosed

/-- The text of a test is read as that test. -/
lemma ofText?_text (h : test.IsWellFormed failureCondition) :
    ofText? failureCondition test.text.toList = some test := by
  cases henclosed : test.isEnclosed with
  | true =>
    obtain ⟨text, htext, hnone⟩ := ofComparison?_eq_none h henclosed
    have hread := ofEnclosed?_text h henclosed
    rw [htext] at hread ⊢
    rw [ofText?, hnone, Option.none_or, hread]
  | false =>
    obtain ⟨text, htext, hread⟩ := ofComparison?_text h henclosed
    rw [htext, ofText?, hread, Option.some_or]

lemma head?_text (test : Test) : test.text.toList.head? = some '(' := by
  cases test <;> simp [text]

end Test

/-! ## Expressions -/

namespace Expression

/-- An expression.  What is negated must stand in parentheses. -/
def ofText? (failureCondition : String) : List Char → Option Expression
  | '!' :: text => (Test.ofEnclosed? failureCondition text).map (⟨true, ·⟩)
  | text => (Test.ofText? failureCondition text).map (⟨false, ·⟩)

/-- **The text of an expression is read as that expression.** -/
lemma ofText?_text {failureCondition : String} {expression : Expression}
    (h : expression.test.IsWellFormed failureCondition)
    (hnegated : expression.negated = true → expression.test.isEnclosed = true) :
    ofText? failureCondition expression.text.toList = some expression := by
  obtain ⟨negated, test⟩ := expression
  cases negated with
  | true =>
    simp [text, ofText?, Test.ofEnclosed?_text h (hnegated rfl)]
  | false =>
    have hhead := test.head?_text
    obtain ⟨rest, hrest⟩ := List.head?_eq_some_iff.1 hhead
    have hread := Test.ofText?_text h
    rw [hrest] at hread
    simp [text, hrest, ofText?, hread]

end Expression

/-! ## The expressions of assertions -/

namespace Assertion

variable (name : String) (polarity : Polarity) (inverted : Bool) (condition : Condition)
  (operandType : String) (settings : Settings)

/-- An inversion that is written as a `!` stands before parentheses. -/
lemma isEnclosed_of_negated
    (h : ((make name polarity inverted condition operandType).expression settings).negated = true) :
    ((make name polarity inverted condition operandType).expression settings).test.isEnclosed =
      true := by
  cases condition <;>
    simp_all [make, expression, Condition.expressesInversion, Condition.test, Test.isEnclosed]

lemma isWellFormed_test (hType : Identifier.isIdentifier operandType.toList = true) :
    ((make name polarity inverted condition operandType).expression settings).test.IsWellFormed
      settings.failureCondition := by
  have happend : ∀ ending : String, ending.toList.all Identifier.isPart = true →
      Identifier.isIdentifier (operandType ++ ending).toList = true := by
    intro ending hending
    rw [String.toList_append]
    exact Identifier.isIdentifier_append hType hending
  have hfirst := happend "1" (by decide)
  have hsecond := happend "2" (by decide)
  have hcompare := happend "_compare" (by decide)
  have hexpr : Identifier.isIdentifier "expr".toList = true := by decide
  have harg1 : Identifier.isIdentifier "arg1".toList = true := by decide
  have harg2 : Identifier.isIdentifier "arg2".toList = true := by decide
  constructor
  · cases condition <;>
      simp_all [make, expression, Condition.test, Condition.operandNames, Test.names,
        Comparator.nameFor, Comparator.suffix]
  · cases condition <;>
      simp [make, expression, Condition.test, Condition.operandNames]

/-- The text of the expression of an assertion is read as that expression. -/
lemma ofText?_expression (hType : Identifier.isIdentifier operandType.toList = true) :
    Expression.ofText? settings.failureCondition
        ((make name polarity inverted condition operandType).expression settings).text.toList =
      some ((make name polarity inverted condition operandType).expression settings) :=
  Expression.ofText?_text
    (isWellFormed_test name polarity inverted condition operandType settings hType)
    (isEnclosed_of_negated name polarity inverted condition operandType settings)

end Assertion

end AssertionHeader
