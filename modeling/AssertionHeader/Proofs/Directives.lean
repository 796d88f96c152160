import AssertionHeader.Proofs.Dependencies
import AssertionHeader.Proofs.Identifiers
import AssertionHeader.Proofs.Lines

/-!
# Directives of blocks

A header is read by the preprocessor line by line, and the names that a run is delivered are
arbitrary texts, with line feeds, quotes and whatever else in them.  A text gets into a header in
one of two ways only: an identifier as it is, any other text as a string literal.  Neither can break
a line.  So the block of a name has one directive, whatever the name is
(`Name.hasDirectives_block`): it defines the macro of this name (`definedName?_directive`) or, if
the name is no identifier, is an error.

The texts of the settings are written as they are; they must not break a line.
-/

namespace AssertionHeader

open Text

/-- No text of the settings has a line feed. -/
structure Settings.IsSingleLine (settings : Settings) : Prop where
  guard : IsLine settings.guard
  reportFunction : IsLine settings.reportFunction
  sentinel : IsLine settings.sentinel
  failureCondition : IsLine settings.failureCondition
  nullHeader : IsLine settings.nullHeader
  stringHeader : IsLine settings.stringHeader

lemma Settings.IsSingleLine.normalized {settings : Settings} (h : settings.IsSingleLine) :
    settings.normalized.IsSingleLine :=
  ⟨h.guard, h.reportFunction, h.sentinel, h.failureCondition, h.nullHeader, h.stringHeader⟩

lemma Comparator.isLine_name {operandType : String} (hType : IsLine operandType) :
    IsLine (nameFor operandType) := by
  have hsuffix : IsLine suffix := by decide
  rw [nameFor, isLine_append]
  exact ⟨hType, hsuffix⟩

/-! ## The texts of an assertion -/

lemma lacks_repr {c : Char} (hc : Numeral.digit? c = none) (n : Nat) : Lacks c n.repr := by
  intro hmem
  rw [Nat.toList_repr] at hmem
  have hdigit := Numeral.digit?_isSome_of_mem_toDigits hmem
  rw [hc] at hdigit
  cases hdigit

lemma isLine_repr (n : Nat) : IsLine n.repr :=
  lacks_repr (by decide) n

lemma Message.isLine_literal {message : Message}
    (h : ∀ name, .operand name ∈ message → IsLine name) : IsLine message.literal := by
  have hparts : ∀ pending, ∀ part ∈ literalParts pending message, IsLine part := by
    induction message with
    | nil =>
      intro pending part hpart
      rw [List.mem_singleton.1 hpart]
      exact isLine_quote pending
    | cons piece rest ih =>
      have hrest := ih fun name hmem => h name (List.mem_cons_of_mem _ hmem)
      intro pending
      cases piece with
      | text text => exact hrest (pending ++ text)
      | operand name =>
        have hname : IsLine ("#" ++ name) :=
          isLine_append.2 ⟨by decide, h name List.mem_cons_self⟩
        intro part hpart
        rcases List.mem_cons.1 hpart with rfl | hpart
        · exact isLine_quote _
        · rcases List.mem_cons.1 hpart with rfl | hpart
          · exact hname
          · exact hrest _ part hpart
  exact isLine_intercalate (by decide) (hparts "")

namespace Condition

variable {condition : Condition} {settings : Settings} {operandType : String}
  {operands : List String}

/-- An operand that is not given has the empty name. -/
lemma lacks_getD {c : Char} (h : ∀ operand ∈ operands, Lacks c operand) (index : Nat) :
    Lacks c (operands[index]?.getD "") := by
  cases hget : operands[index]? with
  | none => exact List.not_mem_nil
  | some operand => exact h operand (List.mem_of_getElem? hget)

lemma isLine_getD (h : ∀ operand ∈ operands, IsLine operand) (index : Nat) :
    IsLine (operands[index]?.getD "") :=
  lacks_getD h index

/-- A sentence about a condition shows the operands only. -/
lemma eq_or_eq_of_mem_statement {holds : Bool} {name : String}
    (h : .operand name ∈ (condition.statement operands holds).message) :
    name = operands[0]?.getD "" ∨ name = operands[1]?.getD "" := by
  cases condition with
  | order | identity => simpa [statement, Statement.message] using h
  | boolean | status | truth | null | literal =>
    exact .inl (by simpa [statement, Statement.message] using h)

lemma isLine_test (hcondition : IsLine settings.failureCondition) (hType : IsLine operandType)
    (hoperands : ∀ operand ∈ operands, IsLine operand) :
    IsLine (condition.test settings operandType operands).text := by
  have hfirst := isLine_getD hoperands 0
  have hsecond := isLine_getD hoperands 1
  have hequality : ∀ equality : Equality, IsLine equality.symbol := by
    rintro (_ | _) <;> decide
  have hrelation : ∀ relation : Relation, IsLine relation.symbol := by
    rintro (_ | _ | _ | _ | _ | _) <;> decide
  have hmarks : IsLine "(" ∧ IsLine ")" ∧ IsLine "((" ∧ IsLine ") " ∧ IsLine " NULL" ∧
      IsLine " " ∧ IsLine "," ∧ IsLine " 0)" ∧ IsLine " (" := by
    decide
  cases condition <;>
    simp [test, Test.text, hfirst, hsecond, hequality, hrelation, hmarks, isLine_repr,
      hcondition, Comparator.isLine_name hType]

end Condition

namespace Assertion

/-- The operands of a macro can be its parameters. -/
lemma isIdentifier_operands {token : String} {a : Assertion}
    (h : Name.decode token = .assertion a) :
    ∀ operand ∈ a.operands, Identifier.isIdentifier operand.toList = true := by
  have hType := isIdentifier_operandType h
  obtain ⟨polarity, spelling, sense, -, rfl⟩ := Name.decode_eq_assertion_iff.1 h
  exact (sense.condition polarity.inverts).isIdentifier_operandNames hType

/-- A failure message shows operands of the macro only. -/
lemma mem_operands_of_mem_message {token : String} {a : Assertion}
    (h : Name.decode token = .assertion a) {name : String} (hmem : .operand name ∈ a.message) :
    name ∈ a.operands := by
  obtain ⟨polarity, spelling, sense, -, rfl⟩ := Name.decode_eq_assertion_iff.1 h
  cases hcondition : sense.condition polarity.inverts <;>
    simp_all [Sense.assertion, make, messageFor, statementFor, Condition.statement,
      Statement.message, Condition.operandNames]

/-- The texts that the macro of an assertion is put together from have no line feeds. -/
structure IsPlain (a : Assertion) : Prop where
  name : IsLine a.name
  operandType : IsLine a.operandType
  operands : ∀ operand ∈ a.operands, IsLine operand
  message : IsLine a.message.literal

lemma isPlain_of_decode {token : String} {a : Assertion} (h : Name.decode token = .assertion a) :
    a.IsPlain := by
  have hname : IsLine a.name := by
    rw [name_of_decode h]
    exact isLine_of_isIdentifier (Name.isIdentifier_of_ne (by simp [h]))
  have hType : IsLine a.operandType := isLine_of_isIdentifier (isIdentifier_operandType h)
  have hoperands : ∀ operand ∈ a.operands, IsLine operand :=
    fun operand hmem => isLine_of_isIdentifier (isIdentifier_operands h operand hmem)
  have hmessage : IsLine a.message.literal :=
    Message.isLine_literal fun name hmem => hoperands name (mem_operands_of_mem_message h hmem)
  exact ⟨hname, hType, hoperands, hmessage⟩

end Assertion

/-! ## The directive of a block -/

namespace Name

/-- The directive that stands in the block of a name. -/
def directive : Name → String
  | assertion a => "#define " ++ a.name ++ "(" ++ ", ".intercalate a.operands ++ ", ...) \\"
  | comparator c => "#define " ++ c.name ++ "(a, b) " ++ c.body
  | unrecognized token =>
    if Identifier.isIdentifier token.toList then "#define " ++ token ++ "(...) \\"
    else "#error " ++ Diagnostic.literal token

end Name

/-- A block and the empty line behind it have the directives of the definition. -/
lemma Block.hasDirectives {name doc text : String} {directives : List String}
    (hdoc : HasDirectives doc []) (htext : HasDirectives text directives) :
    HasDirectives (line (render ⟨name, doc, text⟩)) directives := by
  have hsplit : line (render ⟨name, doc, text⟩) = doc ++ (text ++ line "") := by
    simp [line, render, String.append_assoc]
  have hempty : HasDirectives (line "") [] := HasDirectives.of_line (by decide) (by decide)
  have hdefinition := htext.append hempty
  rw [List.append_nil] at hdefinition
  rw [hsplit]
  exact hdoc.append hdefinition

namespace Assertion

variable {a : Assertion} {settings : Settings}

lemma isSingleLine_comment (h : a.IsPlain) : a.comment.IsSingleLine where
  params := by
    intro param hparam
    rcases List.mem_append.1 hparam with hparam | hparam
    · exact h.operands _ (List.of_mem_zip hparam).1
    · rw [List.mem_singleton.1 hparam]
      decide
  returns := by simp [comment]

lemma isLine_expression (h : a.IsPlain) (hcondition : IsLine settings.failureCondition) :
    IsLine (a.expression settings).text := by
  have htest : IsLine (a.expression settings).test.text :=
    Condition.isLine_test hcondition h.operandType h.operands
  rw [Expression.text]
  split
  · exact isLine_append.2 ⟨by decide, htest⟩
  · exact htest

lemma hasDirectives_definition (h : a.IsPlain) (hsettings : settings.IsSingleLine) :
    HasDirectives (a.definition settings) [(Name.assertion a).directive] := by
  have hmarks : IsLine "#define " ∧ IsLine "(" ∧ IsLine ", ...) \\" ∧ IsLine "    " ∧
      IsLine ", __FILE__, __LINE__, \\" ∧ IsLine "        " ∧ IsLine ", ## __VA_ARGS__, " ∧
      IsLine ")" := by
    decide
  have hoperands : IsLine (", ".intercalate a.operands) := isLine_intercalate (by decide) h.operands
  have hexpression := isLine_expression h hsettings.failureCondition
  rw [definition]
  refine HasDirectives.of_lines ?_ ?_
  · simp [hmarks, h.name, hoperands, hexpression, h.message, hsettings.reportFunction,
      hsettings.sentinel]
  · simp [isDirective, opensWith, List.isPrefixOf, Name.directive]

lemma hasDirectives_block (h : a.IsPlain) (hsettings : settings.IsSingleLine) :
    HasDirectives (line (a.block settings).render) [(Name.assertion a).directive] := by
  rw [block]
  exact Block.hasDirectives ((isSingleLine_comment h).hasDirectives_text _)
    (hasDirectives_definition h hsettings)

end Assertion

namespace Comparator

lemma isSingleLine_comment (c : Comparator) : c.comment.IsSingleLine where
  params := by simp [comment, IsLine]
  returns := by cases hstyle : c.style <;> simp [comment, signLines, hstyle, IsLine]

lemma isLine_directive {c : Comparator} (hType : IsLine c.operandType) :
    IsLine (Name.comparator c).directive := by
  have hmarks : IsLine "#define " ∧ IsLine "(a, b) " ∧ IsLine "((a) - (b))" ∧
      IsLine "strcmp((a), (b))" ∧ IsLine "memcmp(&(a), &(b), sizeof(" ∧ IsLine "))" := by
    decide
  have hbody : IsLine c.body := by
    cases hstyle : c.style <;> simp [body, hstyle, hmarks, hType]
  have hname : IsLine c.name := isLine_name hType
  simp [Name.directive, hmarks, hname, hbody]

lemma hasDirectives_definition {c : Comparator} (hType : IsLine c.operandType) :
    HasDirectives c.definition [(Name.comparator c).directive] := by
  rw [definition]
  refine HasDirectives.of_directive (isLine_directive hType) ?_
  simp [isDirective, opensWith, List.isPrefixOf]

lemma hasDirectives_block {c : Comparator} (hType : IsLine c.operandType) (settings : Settings) :
    HasDirectives (line (c.block settings).render) [(Name.comparator c).directive] := by
  rw [block]
  exact Block.hasDirectives ((isSingleLine_comment c).hasDirectives_text _)
    (hasDirectives_definition hType)

end Comparator

namespace Diagnostic

/-- Whatever the token is, its block has one directive. -/
lemma hasDirectives_block (token : String) :
    HasDirectives (line (block token).render) [(Name.unrecognized token).directive] := by
  have hliteral : IsLine (literal token) := isLine_quote _
  by_cases htoken : Identifier.isIdentifier token.toList = true
  · have hname : IsLine token := isLine_of_isIdentifier htoken
    have hmarks : IsLine "/* " ∧ IsLine ": unrecognized assertion name */" ∧ IsLine "#define " ∧
        IsLine "(...) \\" ∧ IsLine "    _Static_assert(0, " ∧ IsLine ")" := by
      decide
    rw [block, if_pos htoken, Name.directive, if_pos htoken]
    refine Block.hasDirectives ?_ ?_
    · refine HasDirectives.of_line ?_ ?_
      · simp [hmarks, hname]
      · simp [isDirective, opensWith, List.isPrefixOf]
    · refine HasDirectives.of_lines ?_ ?_
      · simp [hmarks, hname, hliteral]
      · simp [isDirective, opensWith, List.isPrefixOf]
  · have hmark : IsLine "#error " := by decide
    rw [block, if_neg htoken, Name.directive, if_neg htoken]
    refine Block.hasDirectives HasDirectives.empty ?_
    refine HasDirectives.of_directive ?_ ?_
    · simp [hmark, hliteral]
    · simp [isDirective, opensWith, List.isPrefixOf]

end Diagnostic

namespace Name

/-- **A token brings one directive into the header**, whatever text it is. -/
lemma hasDirectives_block {settings : Settings} (hsettings : settings.IsSingleLine)
    (token : String) :
    HasDirectives (line ((decode token).block settings).render) [(decode token).directive] := by
  cases hdecode : decode token with
  | assertion a =>
    exact Assertion.hasDirectives_block (Assertion.isPlain_of_decode hdecode) hsettings
  | comparator c =>
    obtain ⟨operandType, hnames, rfl⟩ := decode_eq_comparator_iff.1 hdecode
    have hidentifier : Identifier.isIdentifier (String.ofList operandType).toList = true := by
      rw [String.toList_ofList]
      exact hnames.isIdentifier
    have hType : IsLine (Comparator.ofType (String.ofList operandType)).operandType :=
      isLine_of_isIdentifier hidentifier
    exact Comparator.hasDirectives_block hType settings
  | unrecognized text => exact Diagnostic.hasDirectives_block text

/-- A token that is no identifier brings an error. -/
lemma directive_of_not_isIdentifier {token : String}
    (h : Identifier.isIdentifier token.toList = false) :
    (decode token).directive = "#error " ++ Diagnostic.literal token := by
  rw [decode_of_not_isIdentifier h, directive, h, if_neg Bool.false_ne_true]

/-- An identifier brings a definition. -/
lemma directive_of_isIdentifier {token : String}
    (h : Identifier.isIdentifier token.toList = true) :
    ∃ rest, (decode token).directive.toList =
      "#define ".toList ++ (token.toList ++ '(' :: rest) := by
  have htext := text_decode token
  cases hdecode : decode token with
  | assertion a =>
    obtain rfl : a.name = token := by rwa [hdecode] at htext
    exact ⟨(", ".intercalate a.operands ++ ", ...) \\").toList, by simp [directive]⟩
  | comparator c =>
    obtain rfl : c.name = token := by rwa [hdecode] at htext
    exact ⟨("a, b) " ++ c.body).toList, by simp [directive]⟩
  | unrecognized text =>
    obtain rfl : text = token := by rwa [hdecode] at htext
    exact ⟨"...) \\".toList, by simp [directive, h]⟩

end Name

/-! ## Names of defined macros -/

/-- The macro with parameters that a line defines: what stands between the directive and the first
parenthesis. -/
def definedName? (line : String) : Option String :=
  ("#define ".toList.isPrefixOf? line.toList).bind fun rest =>
    if '(' ∈ rest then some (String.ofList (rest.takeWhile (· ≠ '('))) else none

lemma definedName?_directive {token : String} (h : Identifier.isIdentifier token.toList = true) :
    definedName? (Name.decode token).directive = some token := by
  obtain ⟨rest, htext⟩ := Name.directive_of_isIdentifier h
  have hname : ∀ c ∈ token.toList, decide (c ≠ '(') = true := by
    intro c hc
    have hpart := Identifier.isPart_of_mem h hc
    rw [decide_eq_true_iff]
    rintro rfl
    exact absurd hpart (by decide)
  have hprefix : "#define ".toList.isPrefixOf? (Name.decode token).directive.toList =
      some (token.toList ++ '(' :: rest) := by
    rw [List.isPrefixOf?_eq_some_iff_append_eq, htext]
  have htake : (token.toList ++ '(' :: rest).takeWhile (· ≠ '(') = token.toList := by
    rw [List.takeWhile_append_of_pos hname]
    simp
  rw [definedName?, hprefix, Option.bind_some, if_pos (by simp), htake, String.ofList_toList]

end AssertionHeader
