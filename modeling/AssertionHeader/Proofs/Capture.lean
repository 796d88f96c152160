import AssertionHeader.Proofs.Expansion
import AssertionHeader.Proofs.Meaning.Code

/-!
# Comparators capture types that are named like their parameters

The macro of a comparator has the parameters `a` and `b`, whatever type it is for.  A bytewise
comparator also writes the name of its type, for the size of what is compared.  So the preprocessor
meets three names in the body, and the third one is a parameter too if the type is called `a` or
`b`: then the size that is taken is that of an argument.

`Comparator.call_definition` reads the definition of a comparator as the preprocessor does, and
says what a call of it becomes.  This is what the call is meant for exactly if the type is not
captured, or by an argument that happens to be spelled like the type.
-/

namespace AssertionHeader

open Expansion Identifier

/-! ## Definitions of macros with parameters -/

/-- A macro with parameters, and what a call of it is replaced by. -/
structure Definition where
  name : String
  parameters : List String
  body : String
  deriving DecidableEq, Repr

namespace Definition

/-- The macro that a line defines.  Its body is the rest of the line, without the blanks before
it. -/
def ofLine? (line : String) : Option Definition :=
  ("#define ".toList.isPrefixOf? line.toList).bind fun text =>
    (readUpTo? '(' text).bind fun (name, text) =>
      match text.dropWhile (· != ')') with
      | [] => none
      | _ :: body =>
        some ⟨name, Text.commaSeparated (text.takeWhile (· != ')')),
          String.ofList (body.dropWhile Text.isBlank)⟩

/-- The macro that a text defines on a single line. -/
def ofText? (text : String) : Option Definition :=
  match Text.linesOf text with
  | [line, ""] => ofLine? line
  | _ => none

/-- What a call with the given arguments becomes. -/
def call (definition : Definition) (actuals : List String) : String :=
  expand (definition.parameters.zip actuals) definition.body

end Definition

namespace Comparator

/-! ## What a comparator expands to -/

/-- The comparison of two operands of the given type.  Other values than numbers and strings are
compared bytewise, over as many bytes as `sized` takes. -/
def comparison (operandType first second sized : String) : String :=
  if operandType = "Number" then "((" ++ first ++ ") - (" ++ second ++ "))"
  else if operandType = "String" then "strcmp((" ++ first ++ "), (" ++ second ++ "))"
  else "memcmp(&(" ++ first ++ "), &(" ++ second ++ "), sizeof(" ++ sized ++ "))"

lemma body_eq_comparison (operandType : String) :
    (ofType operandType).body = comparison operandType "a" "b" operandType := by
  unfold comparison
  split
  · next h => simp [body, ofType, styleFor, h]
  · next hnumber =>
    split
    · next h => simp [body, ofType, styleFor, h]
    · next hstring => simp [body, ofType, styleFor, hnumber, hstring]

/-- A comparison fills a frame that does not speak of the parameters. -/
lemma exists_frames_comparison (operandType : String) :
    ∃ front behind, Frames ["a", "b"] front behind ∧ ∀ first second sized,
      comparison operandType first second sized = fill front behind [first, second, sized] := by
  unfold comparison
  split
  · exact ⟨"((", [") - (", "))"],
      .gap (by decide) (by decide) (by decide) (.gap (by decide) (by decide) (by decide)
        (.last (by decide))),
      fun first second sized => by simp [fill, String.append_assoc]⟩
  · split
    · exact ⟨"strcmp((", ["), (", "))"],
        .gap (by decide) (by decide) (by decide) (.gap (by decide) (by decide) (by decide)
          (.last (by decide))),
        fun first second sized => by simp [fill, String.append_assoc]⟩
    · exact ⟨"memcmp(&(", ["), &(", "), sizeof(", "))"],
        .gap (by decide) (by decide) (by decide) (.gap (by decide) (by decide) (by decide)
          (.gap (by decide) (by decide) (by decide) (.last (by decide)))),
        fun first second sized => by simp [fill, String.append_assoc]⟩

/-- All names in a comparison give way to arguments, that of the type too. -/
lemma expand_comparison (operandType x y : String) {sized : String}
    (h : isIdentifier sized.toList = true) :
    expand (["a", "b"].zip [x, y]) (comparison operandType "a" "b" sized) =
      comparison operandType x y (substitute (["a", "b"].zip [x, y]) sized) := by
  obtain ⟨front, behind, hframes, hfill⟩ := exists_frames_comparison operandType
  have hnames : ∀ name ∈ ["a", "b", sized], isIdentifier name.toList = true := by
    simp only [List.forall_mem_cons]
    exact ⟨by decide, by decide, h, by simp⟩
  have hx : substitute (["a", "b"].zip [x, y]) "a" = x := rfl
  have hy : substitute (["a", "b"].zip [x, y]) "b" = y := rfl
  rw [hfill, hframes.expand_fill_map [x, y] hnames, hfill, List.map_cons, List.map_cons,
    List.map_singleton, hx, hy]

/-- Only a bytewise comparison depends on what is sized. -/
lemma comparison_eq_iff {operandType x y sized other : String} :
    comparison operandType x y sized = comparison operandType x y other ↔
      (operandType ≠ "Number" → operandType ≠ "String" → sized = other) := by
  unfold comparison
  split
  · next h => simp [h]
  · next hnumber =>
    split
    · next h => simp [h]
    · next hstring => simp [hnumber, hstring]

/-- What the size is taken of when a call is expanded. -/
def sizedBy (operandType x y : String) : String :=
  if operandType = "a" then x else if operandType = "b" then y else operandType

lemma substitute_eq_sizedBy (operandType x y : String) :
    substitute (["a", "b"].zip [x, y]) operandType = sizedBy operandType x y := by
  unfold sizedBy
  split
  · next h => rw [h]; rfl
  · next ha =>
    split
    · next h => rw [h]; rfl
    · next hb => simp [substitute, List.lookup_cons, beq_false_of_ne ha, beq_false_of_ne hb]

/-- Numbers and strings are not called like a parameter. -/
lemma sizedBy_eq_iff {operandType x y : String} :
    (operandType ≠ "Number" → operandType ≠ "String" →
        sizedBy operandType x y = operandType) ↔
      (operandType = "a" → x = "a") ∧ (operandType = "b" → y = "b") := by
  by_cases ha : operandType = "a"
  · subst ha
    simp [sizedBy]
  · by_cases hb : operandType = "b"
    · subst hb
      simp [sizedBy]
    · simp [sizedBy, ha, hb]

/-! ## The definition of a comparator -/

lemma dropWhile_body (c : Comparator) :
    (' ' :: c.body.toList).dropWhile Text.isBlank = c.body.toList := by
  have hblank : Text.isBlank ' ' = true := by decide
  have hopening : Text.isBlank '(' = false ∧ Text.isBlank 's' = false ∧
      Text.isBlank 'm' = false := by
    decide
  rw [List.dropWhile_cons_of_pos hblank, body]
  cases c.style <;> simp [hopening]

/-- The definition of a comparator is read as it is written. -/
lemma ofText?_definition {operandType : String} (h : isIdentifier operandType.toList = true) :
    Definition.ofText? (ofType operandType).definition =
      some ⟨nameFor operandType, ["a", "b"], (ofType operandType).body⟩ := by
  let body := (ofType operandType).body.toList
  have hlines : Text.linesOf (ofType operandType).definition =
      [(Name.comparator (ofType operandType)).directive, ""] := by
    rw [definition, ← Text.unlines_singleton, Text.linesOf_unlines]
    · rfl
    · exact List.forall_mem_singleton.2 (isLine_directive (Text.isLine_of_isIdentifier h))
  have hdirective : "#define ".toList.isPrefixOf?
      (Name.comparator (ofType operandType)).directive.toList =
        some ((nameFor operandType).toList ++ '(' :: ("a, b)".toList ++ ' ' :: body)) := by
    rw [List.isPrefixOf?_eq_some_iff_append_eq]
    simp [Name.directive, name, ofType, body]
  have hname : readUpTo? '(' ((nameFor operandType).toList ++
      '(' :: ("a, b)".toList ++ ' ' :: body)) =
        some (nameFor operandType, "a, b)".toList ++ ' ' :: body) :=
    readUpTo?_append (isIdentifier_nameFor h) (by decide)
  have hparameters : Text.commaSeparated "a, b".toList = ["a", "b"] := by decide
  have hsplit : ("a, b)".toList ++ ' ' :: body).takeWhile (· != ')') = "a, b".toList ∧
      ("a, b)".toList ++ ' ' :: body).dropWhile (· != ')') = ')' :: ' ' :: body :=
    ⟨rfl, rfl⟩
  have hread : Definition.ofText? (ofType operandType).definition =
      Definition.ofLine? (Name.comparator (ofType operandType)).directive := by
    rw [Definition.ofText?, hlines]
    rfl
  rw [hread, Definition.ofLine?, hdirective, Option.bind_some, hname, Option.bind_some]
  simp only [hsplit, hparameters]
  simp only [body, dropWhile_body, String.ofList_toList]

/-- **The size that is compared is that of the type, unless a parameter captures it.**  The
definition of a comparator is read as a macro with the parameters `a` and `b`, named after the type.
In a call of it, the arguments stand in the place of the two operands, and the type is sized; but if
the type itself is called `a` or `b`, the argument in that place is sized instead.  So the call is
the comparison that it is meant for exactly if such an argument is spelled like the type. -/
theorem call_definition (operandType x y : String) (h : isIdentifier operandType.toList = true) :
    ∃ definition, Definition.ofText? (ofType operandType).definition = some definition ∧
      definition.name = nameFor operandType ∧ definition.parameters = ["a", "b"] ∧
      definition.call [x, y] = comparison operandType x y
        (if operandType = "a" then x else if operandType = "b" then y else operandType) ∧
      (definition.call [x, y] = comparison operandType x y operandType ↔
        (operandType = "a" → x = "a") ∧ (operandType = "b" → y = "b")) := by
  have hcall : Definition.call ⟨nameFor operandType, ["a", "b"], (ofType operandType).body⟩ [x, y] =
      comparison operandType x y (sizedBy operandType x y) := by
    rw [Definition.call, body_eq_comparison, expand_comparison operandType x y h,
      substitute_eq_sizedBy]
  refine ⟨_, ofText?_definition h, rfl, rfl, hcall, ?_⟩
  rw [hcall, comparison_eq_iff, sizedBy_eq_iff]

/-- A type whose name is also that of a function in the body is not captured, nor are arguments that
speak of the parameters. -/
theorem call_definition_memcmp :
    isIdentifier "memcmp".toList = true ∧
      ∃ definition, Definition.ofText? (ofType "memcmp").definition = some definition ∧
        definition.call ["b", "a[i]"] = "memcmp(&(b), &(a[i]), sizeof(memcmp))" := by
  have h : isIdentifier "memcmp".toList = true := by decide
  obtain ⟨definition, hread, -, -, -, hcall⟩ := call_definition "memcmp" "b" "a[i]" h
  exact ⟨h, definition, hread, (hcall.2 (by decide)).trans (by decide)⟩

/-- The comparator of a type `a` takes the size of its first argument. -/
theorem not_call_definition_captured :
    Name.decode "a_compare" = .comparator (ofType "a") ∧
      ¬ ∃ definition, Definition.ofText? (ofType "a").definition = some definition ∧
        definition.call ["*p", "*q"] = comparison "a" "*p" "*q" "a" := by
  refine ⟨by decide, ?_⟩
  rintro ⟨definition, hread, hcall⟩
  have hdefinition : Definition.ofText? (ofType "a").definition =
      some ⟨"a_compare", ["a", "b"], "memcmp(&(a), &(b), sizeof(a))"⟩ := by decide
  obtain rfl := Option.some.inj (hread.symm.trans hdefinition)
  exact absurd hcall (by decide)

end Comparator

end AssertionHeader
