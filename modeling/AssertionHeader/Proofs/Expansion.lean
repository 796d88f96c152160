import AssertionHeader.Proofs.Recognition
import Mathlib.Data.List.SplitBy

/-!
# Calls put their arguments in the place of operands

The preprocessor expands the call of a macro by putting arguments in the place of parameters.  What
it looks at are the pieces of the macro's text: maximal runs of letters, digits and underscores, and
the characters between them (`Expansion.pieces`).  All parameters are replaced at once, so that an
argument that speaks of a parameter is left alone (`Expansion.expand`).

Texts side by side have the pieces of each, if no identifier goes on from the one to the other.  The
operands of a test stand in the gaps of a frame: what is written around them neither goes on into an
operand nor speaks of one (`Expansion.Frames`).  A text that fills such a frame with parameters is
expanded into the one that fills it with arguments (`Expansion.Frames.expand_fill`), and the test of
each condition fills one (`Condition.exists_frames`).
-/

namespace AssertionHeader

namespace Expansion

open Identifier

/-! ## Pieces -/

/-- The maximal runs of characters that identifiers are made of, and each other character on its
own. -/
def pieces (text : String) : List String :=
  (text.toList.splitBy fun c d => isPart c && isPart d).map String.ofList

/-- The text with arguments in the place of parameters.  What is put in is not looked at again. -/
def expand (arguments : List (String × String)) (text : String) : String :=
  String.join ((pieces text).map fun piece => (arguments.lookup piece).getD piece)

/-- The text begins with a character that is not part of identifiers. -/
def Begins (text : String) : Prop :=
  text.toList.head?.map isPart = some false

/-- The text ends in a character that is not part of identifiers. -/
def Ends (text : String) : Prop :=
  text.toList.getLast?.map isPart = some false

instance (text : String) : Decidable (Begins text) :=
  inferInstanceAs (Decidable (_ = _))

instance (text : String) : Decidable (Ends text) :=
  inferInstanceAs (Decidable (_ = _))

lemma join_pieces (text : String) : String.join (pieces text) = text := by
  rw [← String.toList_inj, String.toList_join, pieces, List.flatMap_map]
  simp

lemma Begins.append {s : String} (h : Begins s) (t : String) : Begins (s ++ t) := by
  obtain ⟨c, hc, hpart⟩ := Option.map_eq_some_iff.1 h
  rw [Begins, String.toList_append, List.head?_append, hc, Option.some_or, Option.map_some, hpart]

lemma Ends.append (s : String) {t : String} (h : Ends t) : Ends (s ++ t) := by
  obtain ⟨c, hc, hpart⟩ := Option.map_eq_some_iff.1 h
  rw [Ends, String.toList_append, List.getLast?_append, hc, Option.some_or, Option.map_some, hpart]

lemma pieces_append {s t : String} (h : Ends s ∨ Begins t) :
    pieces (s ++ t) = pieces s ++ pieces t := by
  rw [pieces, pieces, pieces, String.toList_append, List.splitBy_append, List.map_append]
  intro c hc d hd
  rcases h with h | h
  · rw [Ends, Option.mem_def.1 hc, Option.map_some, Option.some.injEq] at h
    rw [h, Bool.false_and]
  · rw [Begins, Option.mem_def.1 hd, Option.map_some, Option.some.injEq] at h
    rw [h, Bool.and_false]

lemma pieces_of_isIdentifier {name : String} (h : isIdentifier name.toList = true) :
    pieces name = [name] := by
  have hne : name.toList ≠ [] := by
    intro hnil
    rw [hnil] at h
    cases h
  have hchain : name.toList.IsChain fun c d => (isPart c && isPart d) = true := by
    refine List.Pairwise.isChain (List.pairwise_of_forall_mem_list fun c hc d hd => ?_)
    rw [isPart_of_mem h hc, isPart_of_mem h hd, Bool.and_self]
  rw [pieces, List.splitBy_of_isChain hne hchain, List.map_singleton, String.ofList_toList]

lemma expand_append (arguments : List (String × String)) {s t : String} (h : Ends s ∨ Begins t) :
    expand arguments (s ++ t) = expand arguments s ++ expand arguments t := by
  rw [expand, pieces_append h, List.map_append, String.join_append]
  rfl

/-! ## Texts without parameters -/

/-- None of the names is a piece of the text. -/
def Keeps (names : List String) (text : String) : Prop :=
  ∀ name ∈ names, name ∉ pieces text

instance (names : List String) (text : String) : Decidable (Keeps names text) :=
  inferInstanceAs (Decidable (∀ name ∈ names, _))

namespace Keeps

variable {names : List String} {s t text : String}

lemma append (hs : Keeps names s) (ht : Keeps names t) (h : Ends s ∨ Begins t) :
    Keeps names (s ++ t) := by
  intro name hname
  rw [pieces_append h, List.mem_append, not_or]
  exact ⟨hs name hname, ht name hname⟩

/-- A text has no piece with a character that it lacks. -/
lemma of_lacks {c : Char} (hnames : ∀ name ∈ names, c ∈ name.toList) (h : Text.Lacks c text) :
    Keeps names text := by
  intro name hname hmem
  refine h ?_
  rw [← join_pieces text, String.toList_join, List.mem_flatMap]
  exact ⟨name, hmem, hnames name hname⟩

/-- Identifiers are no pieces of a text without identifiers. -/
lemma of_isIdentifier (hnames : ∀ name ∈ names, isIdentifier name.toList = true)
    (h : ∀ piece ∈ pieces text, isIdentifier piece.toList = false) : Keeps names text := by
  intro name hname hmem
  have hpiece := h name hmem
  rw [hnames name hname] at hpiece
  cases hpiece

lemma of_not_mem {name : String} (hname : isIdentifier name.toList = true) (h : name ∉ names) :
    Keeps names name := by
  intro other hother hmem
  rw [pieces_of_isIdentifier hname, List.mem_singleton] at hmem
  exact h (hmem ▸ hother)

lemma expand_eq (h : Keeps names text) (actuals : List String) :
    expand (names.zip actuals) text = text := by
  have hpiece : ∀ piece ∈ pieces text,
      ((names.zip actuals).lookup piece).getD piece = piece := by
    intro piece hmem
    have hnone : (names.zip actuals).lookup piece = none := by
      rw [List.lookup_eq_none_iff]
      intro entry hentry
      have hname : entry.1 ∈ names := (List.of_mem_zip hentry).1
      simp only [bne_iff_ne, ne_eq]
      rintro rfl
      exact h _ hname hmem
    rw [hnone, Option.getD_none]
  rw [expand, List.map_congr_left hpiece, List.map_id']
  exact join_pieces text

end Keeps

/-! ## Frames -/

/-- The frame with operands in its gaps.  What stands before the first gap is given first, then what
stands behind each of them. -/
def fill (front : String) : (behind operands : List String) → String
  | next :: behind, operand :: operands => front ++ operand ++ fill next behind operands
  | _, _ => front

/-- What is written around the gaps neither goes on into them nor has one of the names as a
piece. -/
inductive Frames (names : List String) : (front : String) → (behind : List String) → Prop
  | last {front : String} (hkeeps : Keeps names front) : Frames names front []
  | gap {front next : String} {behind : List String} (hkeeps : Keeps names front)
      (hends : Ends front) (hbegins : Begins next) (hnext : Frames names next behind) :
      Frames names front (next :: behind)

lemma begins_fill {front : String} (h : Begins front) (behind operands : List String) :
    Begins (fill front behind operands) := by
  unfold fill
  split
  · rw [String.append_assoc]
    exact h.append _
  · exact h

/-- What a name gives way to: the argument in its place, if it is a parameter, and else itself. -/
def substitute (arguments : List (String × String)) (name : String) : String :=
  (arguments.lookup name).getD name

/-- A frame that is filled with names is expanded into the frame with what these give way to. -/
lemma Frames.expand_fill_map {names : List String} {front : String} {behind : List String}
    (h : Frames names front behind) (actuals : List String) {operands : List String}
    (hoperands : ∀ operand ∈ operands, isIdentifier operand.toList = true) :
    expand (names.zip actuals) (fill front behind operands) =
      fill front behind (operands.map (substitute (names.zip actuals))) := by
  induction h generalizing operands with
  | last hkeeps => exact hkeeps.expand_eq actuals
  | @gap front next behind hkeeps hends hbegins _ ih =>
    cases operands with
    | nil => exact hkeeps.expand_eq actuals
    | cons operand operands =>
      rw [List.forall_mem_cons] at hoperands
      have hoperand : expand (names.zip actuals) operand =
          substitute (names.zip actuals) operand := by
        rw [expand, pieces_of_isIdentifier hoperands.1, List.map_singleton]
        simp [substitute]
      rw [fill, expand_append _ (.inr (begins_fill hbegins behind operands)),
        expand_append _ (.inl hends), hkeeps.expand_eq, hoperand, ih hoperands.2, List.map_cons,
        fill]

/-- A frame that is filled with parameters is expanded into the frame with the arguments. -/
lemma Frames.expand_fill {names actuals : List String} {front : String} {behind : List String}
    (h : Frames names front behind) {operands arguments : List String}
    (hoperands : ∀ operand ∈ operands, isIdentifier operand.toList = true)
    (harguments : List.Forall₂ (fun operand argument =>
      (names.zip actuals).lookup operand = some argument) operands arguments) :
    expand (names.zip actuals) (fill front behind operands) = fill front behind arguments := by
  have hmap : operands.map (substitute (names.zip actuals)) = arguments := by
    rw [← List.forall₂_eq_eq_eq, List.forall₂_map_left_iff]
    refine harguments.imp fun operand argument hlookup => ?_
    rw [substitute, hlookup, Option.getD_some]
  rw [h.expand_fill_map actuals hoperands, hmap]

/-- Each of several parameters stands for the argument in its place. -/
lemma forall₂_lookup_zip {names actuals : List String} (hnodup : names.Nodup)
    (hlength : actuals.length = names.length) :
    List.Forall₂ (fun name actual => (names.zip actuals).lookup name = some actual)
      names actuals := by
  induction names generalizing actuals with
  | nil =>
    obtain rfl := List.length_eq_zero_iff.1 hlength
    exact .nil
  | cons name names ih =>
    obtain ⟨actual, actuals, rfl⟩ := List.exists_cons_of_length_eq_add_one hlength
    rw [List.nodup_cons] at hnodup
    have hne : ∀ other ∈ names, other ≠ name := fun other hother heq => hnodup.1 (heq ▸ hother)
    have hrest := (List.forall₂_and_left _ _).2 ⟨hne, ih hnodup.2 (by simpa using hlength)⟩
    refine .cons (by simp) (hrest.imp fun other argument hother => ?_)
    rw [List.zip_cons_cons, List.lookup_cons, beq_false_of_ne hother.1]
    exact hother.2

end Expansion

/-! ## Tests -/

open Expansion

lemma Comparator.isIdentifier_nameFor {operandType : String}
    (hType : Identifier.isIdentifier operandType.toList = true) :
    Identifier.isIdentifier (nameFor operandType).toList = true := by
  rw [nameFor, String.toList_append]
  exact Identifier.isIdentifier_append hType (by decide)

namespace Condition

variable {operandType : String}

/-- A text without the letter `x` does not speak of `expr`. -/
lemma keeps_expr {text : String} (h : Text.Lacks 'x' text) : Keeps ["expr"] text :=
  .of_lacks (by decide) h

lemma frames_expr {front next : String} (hfront : Text.Lacks 'x' front) (hends : Ends front)
    (hnext : Keeps ["expr"] next) (hbegins : Begins next) : Frames ["expr"] front [next] :=
  .gap (keeps_expr hfront) hends hbegins (.last hnext)

/-- The call of a comparator does not speak of its operands by another name of their type. -/
lemma frames_order (hType : Identifier.isIdentifier operandType.toList = true)
    (relation : Relation) :
    Frames ((order relation).operandNames operandType)
      ("(" ++ Comparator.nameFor operandType ++ "(")
      [",", ") " ++ relation.base.symbol ++ " 0)"] := by
  have hnames := (order relation).isIdentifier_operandNames hType
  have hopening : Keeps ((order relation).operandNames operandType) "(" :=
    .of_isIdentifier hnames (by decide)
  have hcomparator : Keeps ((order relation).operandNames operandType)
      (Comparator.nameFor operandType) :=
    .of_not_mem (Comparator.isIdentifier_nameFor hType)
      ((order relation).nameFor_not_mem_operandNames operandType)
  have hclosing : Keeps ((order relation).operandNames operandType)
      (") " ++ relation.base.symbol ++ " 0)") := by
    refine .of_isIdentifier hnames ?_
    cases relation <;> decide
  have hends : Ends ("(" ++ Comparator.nameFor operandType ++ "(") := .append _ (by decide)
  have hbegins : Begins (") " ++ relation.base.symbol ++ " 0)") := by
    cases relation <;> decide
  exact .gap ((hopening.append hcomparator (.inl (by decide))).append hopening (.inr (by decide)))
    hends (by decide)
    (.gap (.of_isIdentifier hnames (by decide)) (by decide) hbegins (.last hclosing))

lemma frames_identity (equality : Equality) :
    Frames ["arg1", "arg2"] "(" [") " ++ equality.symbol ++ " (", ")"] := by
  have hnames : ∀ name ∈ ["arg1", "arg2"], Identifier.isIdentifier name.toList = true := by decide
  refine .gap (.of_isIdentifier hnames (by decide)) (by decide) ?_
    (.gap (.of_isIdentifier hnames ?_) ?_ (by decide) (.last (.of_isIdentifier hnames (by decide))))
  all_goals cases equality <;> decide

/-- The test of a condition fills a frame with its operands. -/
lemma exists_frames (condition : Condition) (settings : Settings)
    (hType : Identifier.isIdentifier operandType.toList = true)
    (hfailure : "expr" ∉ pieces settings.failureCondition) :
    ∃ front behind, Frames (condition.operandNames operandType) front behind ∧
      ∀ operands, operands.length = (condition.operandNames operandType).length →
        (condition.test settings operandType operands).text = fill front behind operands := by
  cases condition with
  | boolean | truth =>
    refine ⟨"(", [")"], frames_expr (by decide) (by decide) (keeps_expr (by decide)) (by decide),
      fun operands hlength => ?_⟩
    obtain ⟨operand, rfl⟩ := List.length_eq_one_iff.1 hlength
    rfl
  | status =>
    have hnext : Keeps ["expr"] (") " ++ (settings.failureCondition ++ ")")) := by
      have hclosing : Keeps ["expr"] ")" := keeps_expr (by decide)
      have hcondition : Keeps ["expr"] settings.failureCondition :=
        List.forall_mem_singleton.2 hfailure
      exact (keeps_expr (by decide)).append (hcondition.append hclosing (.inr (by decide)))
        (.inl (by decide))
    have hbegins : Begins ") " := by decide
    refine ⟨"((", [_], frames_expr (by decide) (by decide) hnext (hbegins.append _),
      fun operands hlength => ?_⟩
    obtain ⟨operand, rfl⟩ := List.length_eq_one_iff.1 hlength
    simp [fill, test, Test.text, String.append_assoc]
  | null equality =>
    refine ⟨"(", [") " ++ equality.symbol ++ " NULL"], frames_expr (by decide) (by decide)
      (keeps_expr ?_) ?_, fun operands hlength => ?_⟩
    · cases equality <;> decide
    · cases equality <;> decide
    · obtain ⟨operand, rfl⟩ := List.length_eq_one_iff.1 hlength
      simp [fill, test, Test.text, String.append_assoc]
  | literal value equality =>
    have hsign : Text.Lacks 'x' (") " ++ equality.symbol ++ " ") ∧
        Begins (") " ++ equality.symbol ++ " ") := by
      cases equality <;> decide
    refine ⟨"(", [") " ++ equality.symbol ++ " " ++ toString value],
      frames_expr (by decide) (by decide) (keeps_expr ?_) (hsign.2.append _),
      fun operands hlength => ?_⟩
    · exact Text.lacks_append.2 ⟨hsign.1, lacks_repr (by decide) value⟩
    · obtain ⟨operand, rfl⟩ := List.length_eq_one_iff.1 hlength
      simp [fill, test, Test.text, String.append_assoc]
  | order relation =>
    refine ⟨_, _, frames_order hType relation, fun operands hlength => ?_⟩
    obtain ⟨first, second, rfl⟩ := List.length_eq_two.1 hlength
    simp [fill, test, Test.text, String.append_assoc]
  | identity equality =>
    refine ⟨_, _, frames_identity equality, fun operands hlength => ?_⟩
    obtain ⟨first, second, rfl⟩ := List.length_eq_two.1 hlength
    simp [fill, test, Test.text, String.append_assoc]

end Condition

/-- The expression with arguments is a test with arguments, negated or not. -/
lemma Expression.expand_text {arguments : List (String × String)} {test test' : Test}
    (hnot : expand arguments "!" = "!") (htest : expand arguments test.text = test'.text)
    (negated : Bool) :
    expand arguments (Expression.text ⟨negated, test⟩) = Expression.text ⟨negated, test'⟩ := by
  cases negated with
  | false => exact htest
  | true =>
    have hsplit : ∀ test : Test, Expression.text ⟨true, test⟩ = "!" ++ test.text := fun _ => rfl
    rw [hsplit, hsplit, expand_append _ (.inl (by decide)), hnot, htest]

namespace Assertion

/-- **Macros are hygienic.**  When the parameters in the expression of an assertion give way to the
arguments of a call, the result is the expression of the assertion with these arguments for
operands: nothing else in it is taken for a parameter, and no parameter is missed.  The condition
for a failed operation is written by the user and must not speak of `expr`. -/
theorem expand_expression {token : String} {a : Assertion} (h : Name.decode token = .assertion a)
    (settings : Settings) (hfailure : "expr" ∉ pieces settings.failureCondition)
    (actuals : List String) (hlength : actuals.length = a.operands.length) :
    expand (a.operands.zip actuals) (a.expression settings).text =
      ({ a with operands := actuals }.expression settings).text := by
  have hType := isIdentifier_operandType h
  have hlegal := isLegal_of_decode h
  have hnames : a.operands = a.condition.operandNames a.operandType := by
    obtain ⟨polarity, spelling, sense, -, rfl⟩ := Name.decode_eq_assertion_iff.1 h
    rfl
  obtain ⟨front, behind, hframes, htext⟩ := a.condition.exists_frames settings hType hfailure
  have htest : expand (a.operands.zip actuals)
      (a.condition.test settings a.operandType a.operands).text =
        (a.condition.test settings a.operandType actuals).text := by
    rw [htext actuals (hnames ▸ hlength), htext a.operands (hnames ▸ rfl)]
    exact (hnames ▸ hframes).expand_fill hlegal.operands
      (forall₂_lookup_zip hlegal.distinct hlength)
  have hnot : expand (a.operands.zip actuals) "!" = "!" :=
    (Keeps.of_isIdentifier hlegal.operands (by decide)).expand_eq actuals
  exact Expression.expand_text hnot htest a.inverted

theorem expand_expression_temperature :
    let a := make "Fail_if_TemperatureNE" .failIf false (.order .ne) "Temperature"
    let settings : Settings := {}
    let actuals := ["Temperature2", "max(Temperature1, 4)"]
    Name.decode "Fail_if_TemperatureNE" = .assertion a ∧
      "expr" ∉ pieces settings.failureCondition ∧ actuals.length = a.operands.length ∧
      expand (a.operands.zip actuals) (a.expression settings).text =
        "(Temperature_compare(Temperature2,max(Temperature1, 4)) == 0)" := by
  intro a settings actuals
  have hdecode : Name.decode "Fail_if_TemperatureNE" = .assertion a := by decide
  have hfailure : "expr" ∉ pieces settings.failureCondition := by decide
  have hexpand := expand_expression hdecode settings hfailure actuals rfl
  exact ⟨hdecode, hfailure, rfl, hexpand.trans (by decide)⟩

end Assertion

end AssertionHeader
