import AssertionHeader.Proofs.Directives
import AssertionHeader.Proofs.Sections

/-!
# Recognized names

A name reaches a run through two gates that know nothing of the grammar: the blanks around a line
are cut off, and a line is passed over unless it has the outward form of a name.
`Name.decode_recognized` says that both let through, unchanged, whatever spells a macro, and that
the macro is legal C: it has the name that was read, which is an identifier, and its operands can be
its parameters (`Assertion.IsLegal`).

An operand is never mistaken for the macro itself or for the comparator that the macro calls.  A
fixed operand name opens with no polarity; one that is made from an operand type ends in a digit, in
which neither a relation nor the name of a comparator ends.

There are no blanks and no commas in an identifier either.  So identifiers are found again where
they are listed with commas between them (`Text.commaSeparated_intercalate`).
-/

namespace AssertionHeader

/-! ## Names pass the gates -/

namespace Identifier

lemma toNat_of_isPart {c : Char} (h : isPart c = true) : 0x30 ≤ c.toNat ∧ c.toNat ≤ 0x7A := by
  change (decide (c.val ≥ 65 ∧ c.val ≤ 90) || c.val ≥ 97 && c.val ≤ 122 ||
    c.val ≥ 48 && c.val ≤ 57 || c == '_') = true at h
  simp only [Bool.or_eq_true, Bool.and_eq_true, decide_eq_true_eq, beq_iff_eq, ge_iff_le,
    UInt32.le_iff_toNat_le] at h
  change (((65 ≤ c.toNat ∧ c.toNat ≤ 90) ∨ (97 ≤ c.toNat ∧ c.toNat ≤ 122)) ∨
    (48 ≤ c.toNat ∧ c.toNat ≤ 57)) ∨ c = '_' at h
  rcases h with ((hupper | hlower) | hdigit) | rfl
  · omega
  · omega
  · omega
  · decide

lemma isBlank_of_isPart {c : Char} (h : isPart c = true) : Text.isBlank c = false := by
  obtain ⟨hlow, hhigh⟩ := toNat_of_isPart h
  have houtside : ∀ range ∈ Text.blanks, range.last < 0x30 ∨ 0x7A < range.first := by decide
  rw [Bool.eq_false_iff]
  intro hblank
  obtain ⟨range, hmem, hfirst, hlast⟩ := Text.CharRange.tableContains_iff.1 hblank
  have := houtside range hmem
  omega

end Identifier

lemma Text.trim_of_isIdentifier {text : List Char} (h : Identifier.isIdentifier text = true) :
    trim text = text := by
  have hblank : ∀ c ∈ text, isBlank c = false := fun c hc =>
    Identifier.isBlank_of_isPart (Identifier.isPart_of_mem h hc)
  exact trim_eq_self (fun c hc => hblank c (List.mem_of_head? hc))
    fun c hc => hblank c (List.mem_of_getLast? hc)

namespace Name

lemma isCandidate_of_opens {polarity : Polarity} {token : List Char}
    (h : polarity.spelling.toList <+: token) : isCandidate token = true := by
  have hform : "Assert".toList <+: polarity.spelling.toList ∨
      "Fail".toList <+: polarity.spelling.toList := by
    cases polarity <;> decide
  rw [isCandidate, Bool.or_eq_true, Bool.or_eq_true, List.isPrefixOf_iff_prefix,
    List.isPrefixOf_iff_prefix]
  exact .inl (hform.imp (·.trans h) (·.trans h))

lemma isCandidate_of_ending {token : List Char} (h : "_compare".toList <:+ token) :
    isCandidate token = true := by
  rw [isCandidate, Bool.or_eq_true, List.isSuffixOf_iff_suffix]
  exact .inr h

/-- What spells a macro has the outward form of a name. -/
lemma isCandidate_of_ne {token : String} (h : decode token ≠ unrecognized token) :
    isCandidate token.toList = true := by
  rcases decode_cases token with ⟨_, _, _, hnames, -⟩ | ⟨operandType, hnames, -⟩ |
    ⟨-, -, hdecode⟩
  · exact isCandidate_of_opens hnames.longest.opens
  · exact isCandidate_of_ending ⟨operandType, hnames.ending.symm⟩
  · exact absurd hdecode h

end Name

/-- A line that delivers a name in the form of one feeds it to the run. -/
lemma Run.feedLine_of_trim_eq {line token : String} (htrim : Text.trim line.toList = token.toList)
    (hform : Name.isCandidate token.toList = true) (run : Run) :
    run.feedLine line = (run.feed token).2 := by
  rw [feedLine, htrim, if_pos hform, String.ofList_toList]

/-! ## Operands and parameters -/

/-- How many operands a condition is about. -/
def Condition.operandCount : Condition → Nat
  | order _ | identity _ => 2
  | boolean | status | truth | null _ | literal _ _ => 1

namespace Condition

variable (condition : Condition) (operandType : String)

lemma length_operandNames :
    (condition.operandNames operandType).length = condition.operandCount := by
  cases condition <;> rfl

lemma nodup_operandNames : (condition.operandNames operandType).Nodup := by
  cases condition with
  | order => simp [operandNames]
  | identity => simp [operandNames]
  | boolean | status | truth | null | literal => simp [operandNames]

/-- Operands have fixed names or, in an order, are the numbered operand type. -/
lemma operandNames_cases :
    (∃ relation, condition = order relation ∧
        condition.operandNames operandType = ["1", "2"].map (operandType ++ ·)) ∨
      ∀ operand ∈ condition.operandNames operandType, operand ∈ ["expr", "arg1", "arg2"] := by
  cases condition with
  | order relation => exact .inl ⟨relation, rfl, rfl⟩
  | boolean | status | truth | null | literal | identity => exact .inr (by simp [operandNames])

lemma nameFor_not_mem_operandNames :
    Comparator.nameFor operandType ∉ condition.operandNames operandType := by
  intro hmem
  rcases condition.operandNames_cases operandType with ⟨relation, -, hnames⟩ | hfixed
  · obtain ⟨digit, hdigit, heq⟩ := List.mem_map.1 (hnames ▸ hmem)
    obtain rfl : digit = Comparator.suffix := by simpa [Comparator.nameFor] using heq
    exact absurd hdigit (by decide)
  · have hending : ∀ name ∈ ["expr", "arg1", "arg2"], ¬ "_compare".toList <:+ name.toList := by
      decide
    refine hending _ (hfixed _ hmem) ⟨operandType.toList, ?_⟩
    simp [Comparator.nameFor, Comparator.suffix]

end Condition

/-- The macro can be defined in C: its name and operands are identifiers, and its operands are
parameters that do not collide with each other, with the macro or with the comparator that it
calls. -/
structure Assertion.IsLegal (a : Assertion) : Prop where
  name : Identifier.isIdentifier a.name.toList = true
  operandType : Identifier.isIdentifier a.operandType.toList = true
  operands : ∀ operand ∈ a.operands, Identifier.isIdentifier operand.toList = true
  count : a.operands.length = a.condition.operandCount
  distinct : a.operands.Nodup
  not_name : a.name ∉ a.operands
  not_comparator : ∀ comparator, a.comparator? = some comparator → comparator ∉ a.operands

/-- What spells an order ends in its relation. -/
lemma Spells.ending_of_order {text : List Char} {operandType : String} {relation : Relation}
    (h : Spells text (.order operandType relation)) :
    ∃ ending ∈ relation.spellings, ending.toList <:+ text := by
  cases h with
  | untyped hmem => exact ⟨_, hmem, List.suffix_rfl⟩
  | typed hType hmem => exact ⟨_, hmem, List.suffix_append _ _⟩

/-- No relation is spelled with a digit at its end. -/
lemma Relation.not_suffix_numbered {relation : Relation} {ending digit operandType : String}
    (hending : ending ∈ relation.spellings) (hdigit : digit ∈ ["1", "2"]) :
    ¬ ending.toList <:+ (operandType ++ digit).toList := by
  have hlast : ∀ entry ∈ endings, ∀ digit ∈ ["1", "2"],
      ¬ entry.1.toList <:+ digit.toList ∧ ¬ digit.toList <:+ entry.1.toList := by
    decide
  obtain ⟨hlong, hshort⟩ := hlast _ (mem_endings_iff.2 hending) digit hdigit
  rw [String.toList_append]
  exact Text.not_suffix_append hlong hshort

namespace Names

variable {token spelling : List Char} {polarity : Polarity} {sense : Sense}

/-- No operand of an assertion has the name of the assertion. -/
lemma ne_operand (h : Names token polarity spelling sense) {operand : String}
    (hmem : operand ∈ (sense.condition polarity.inverts).operandNames sense.operandType) :
    operand.toList ≠ token := by
  rintro rfl
  rcases (sense.condition polarity.inverts).operandNames_cases sense.operandType with
    ⟨relation, hcondition, hnames⟩ | hfixed
  · obtain ⟨digit, hdigit, rfl⟩ := List.mem_map.1 (hnames ▸ hmem)
    have hsense : ∃ operandType, sense = .order operandType relation := by
      cases sense <;> simp_all [Sense.condition]
    obtain ⟨operandType, rfl⟩ := hsense
    obtain ⟨ending, hending, hsuffix⟩ := h.spells.ending_of_order
    exact Relation.not_suffix_numbered hending hdigit (hsuffix.trans h.spelling_suffix)
  · have hopening : ∀ name ∈ ["expr", "arg1", "arg2"],
        ¬ polarity.spelling.toList <+: name.toList := by
      cases polarity <;> decide
    exact hopening operand (hfixed operand hmem) h.longest.opens

end Names

namespace Assertion

variable {token : String} {a : Assertion}

lemma not_mem_operands_of_comparator? {comparator : String}
    (h : Name.decode token = .assertion a) (hcomparator : a.comparator? = some comparator) :
    comparator ∉ a.operands := by
  obtain rfl := comparator?_eq_some hcomparator
  obtain ⟨polarity, spelling, sense, -, rfl⟩ := Name.decode_eq_assertion_iff.1 h
  exact Condition.nameFor_not_mem_operandNames _ _

lemma isLegal_of_decode (h : Name.decode token = .assertion a) : a.IsLegal where
  name := by
    rw [name_of_decode h]
    exact Name.isIdentifier_of_ne (by simp [h])
  operandType := isIdentifier_operandType h
  operands := isIdentifier_operands h
  count := by
    obtain ⟨polarity, spelling, sense, -, rfl⟩ := Name.decode_eq_assertion_iff.1 h
    exact Condition.length_operandNames _ _
  distinct := by
    obtain ⟨polarity, spelling, sense, -, rfl⟩ := Name.decode_eq_assertion_iff.1 h
    exact Condition.nodup_operandNames _ _
  not_name := by
    obtain ⟨polarity, spelling, sense, hnames, rfl⟩ := Name.decode_eq_assertion_iff.1 h
    exact fun hmem => hnames.ne_operand hmem rfl
  not_comparator := fun _ => not_mem_operands_of_comparator? h

end Assertion

/-! ## What is recognized -/

namespace Name

/-- **What is recognized is legal and is not lost.**  A token that spells a macro is an identifier.
Neither the cutting of blanks nor the filter for lines drops or changes it, so that a line which has
nothing but blanks around the token feeds it to any run.  The macro that it spells has the token as
its name and an identifier as its operand type; if it is an assertion, its operands can be its
parameters. -/
theorem decode_recognized (token : String) (h : decode token ≠ unrecognized token) :
    Identifier.isIdentifier token.toList = true ∧
    Text.trim token.toList = token.toList ∧
    isCandidate token.toList = true ∧
    (∀ (run : Run) (line : String), Text.trim line.toList = token.toList →
      run.feedLine line = (run.feed token).2) ∧
    ((∃ a, decode token = assertion a ∧ a.name = token ∧ a.IsLegal) ∨
      ∃ c, decode token = comparator c ∧ c.name = token ∧
        Identifier.isIdentifier c.operandType.toList = true) := by
  have hidentifier : Identifier.isIdentifier token.toList = true := isIdentifier_of_ne h
  have htrim : Text.trim token.toList = token.toList := Text.trim_of_isIdentifier hidentifier
  have hform : isCandidate token.toList = true := isCandidate_of_ne h
  refine ⟨hidentifier, htrim, hform, fun run line hline => run.feedLine_of_trim_eq hline hform, ?_⟩
  have htext := text_decode token
  cases hdecode : decode token with
  | assertion a =>
    rw [hdecode] at htext
    exact .inl ⟨a, rfl, htext, Assertion.isLegal_of_decode hdecode⟩
  | comparator c =>
    rw [hdecode] at htext
    obtain ⟨operandType, hnames, rfl⟩ := decode_eq_comparator_iff.1 hdecode
    refine .inr ⟨_, rfl, htext, ?_⟩
    rw [Comparator.ofType, String.toList_ofList]
    exact hnames.isIdentifier
  | unrecognized text =>
    rw [hdecode] at htext
    exact absurd (htext ▸ hdecode) h

/-- An operand type may itself look like a polarity and a comparator's name. -/
theorem decode_recognized_compare :
    let a := Sense.assertion (.order "Assert_compare" .ne) "Fail_if_Assert_compareNE" .failIf
    decode "Fail_if_Assert_compareNE" = assertion a ∧
      decode "Fail_if_Assert_compareNE" ≠ unrecognized "Fail_if_Assert_compareNE" ∧
      a.IsLegal := by
  intro a
  have hdecode : decode "Fail_if_Assert_compareNE" = assertion a := rfl
  have hne : decode "Fail_if_Assert_compareNE" ≠ unrecognized "Fail_if_Assert_compareNE" := by
    simp [hdecode]
  refine ⟨hdecode, hne, ?_⟩
  obtain ⟨-, -, -, -, ⟨b, hb, -, hlegal⟩ | ⟨c, hc, -⟩⟩ := decode_recognized _ hne
  · obtain rfl : a = b := assertion.inj (hdecode.symm.trans hb)
    exact hlegal
  · rw [hdecode] at hc
    cases hc

end Name

/-! ## Identifiers between commas -/

namespace Text

/-- What stands between the commas of a text, without the blanks around it. -/
def commaSeparated (text : List Char) : List String :=
  (text.splitOn ',').map fun item => String.ofList (trim item)

lemma commaSeparated_space (text : List Char) :
    commaSeparated (' ' :: text) = commaSeparated text := by
  have htrim : ∀ item, trim (' ' :: item) = trim item := fun _ => rfl
  obtain ⟨first, others, hsplit⟩ := List.exists_cons_of_ne_nil (List.splitOn_ne_nil ',' text)
  rw [commaSeparated, commaSeparated, List.splitOn_eq_splitOnP,
    List.splitOnP_cons_eq_if_modifyHead, ← List.splitOn_eq_splitOnP, if_neg (by decide), hsplit]
  simp [htrim]

/-- Identifiers with commas between them are found again. -/
lemma commaSeparated_intercalate {names : List String} (hne : names ≠ [])
    (h : ∀ name ∈ names, Identifier.isIdentifier name.toList = true) :
    commaSeparated (", ".intercalate names).toList = names := by
  induction names with
  | nil => exact absurd rfl hne
  | cons name others ih =>
    rw [List.forall_mem_cons] at h
    have hcomma : ',' ∉ name.toList := lacks_of_isIdentifier (by decide) h.1
    have hname : String.ofList (trim name.toList) = name := by
      rw [trim_of_isIdentifier h.1, String.ofList_toList]
    cases others with
    | nil =>
      rw [String.intercalate_singleton, commaSeparated, List.splitOn_eq_singleton hcomma,
        List.map_singleton, hname]
    | cons second others =>
      have htext : (", ".intercalate (name :: second :: others)).toList =
          name.toList ++ ',' :: ' ' :: (", ".intercalate (second :: others)).toList := by
        simp [String.intercalate_cons_cons]
      have hrest := commaSeparated_space (", ".intercalate (second :: others)).toList
      rw [ih (List.cons_ne_nil second others) h.2, commaSeparated] at hrest
      rw [htext, commaSeparated, List.splitOn_append_cons_self_of_not_mem hcomma, List.map_cons,
        hname, hrest]

end Text

end AssertionHeader
