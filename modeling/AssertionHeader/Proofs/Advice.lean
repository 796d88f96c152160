import AssertionHeader.Proofs.Dependencies
import AssertionHeader.Proofs.Requests

/-!
# The note of a header

A header opens with a note on the comparators that the user has to define, if there are any.
`Header.missing_eq` says which they are: those of the types that the assertions order, except for
numbers and strings and except for those whose names were delivered.  Each is listed once, in the
order in which the first assertion on its type came, with the signature that it must have and the
assertions that call it.

The order in which names of comparators and assertions are delivered does not enter: only that of
the assertions among themselves is seen in the note.
-/

namespace AssertionHeader

/-! ## What the note says of a comparator -/

namespace Comparator

/-- The signature of the comparator of a type, and the calls that the given assertions make. -/
def advice (operandType : String) (users : List String) : List String :=
  let name := nameFor operandType
  [" *   int " ++ name ++ "(" ++ operandType ++ " a, " ++ operandType ++ " b);",
    " *       called as " ++ name ++ "(" ++ operandType ++ "1," ++ operandType ++ "2) by " ++
      ", ".intercalate users]

/-- The lines of a note on the comparators of the given types, called by the given assertions; none
if there are no types. -/
def noteLines (types : List String) (usersOf : String → List String) : List String :=
  if types.isEmpty then []
  else
    ["/*", " * Unresolved dependencies; define these before using the macros below:", " *"] ++
      types.flatMap (fun operandType => advice operandType (usersOf operandType)) ++ [" */", ""]

end Comparator

namespace Need

lemma comparatorType?_nameFor {operandType : String} {users : List String}
    (h : operandType.toList ≠ []) :
    (⟨Comparator.nameFor operandType, users⟩ : Need).comparatorType? = some operandType := by
  have hstrip : Comparator.stripSuffix? (Comparator.nameFor operandType).toList =
      some operandType.toList := by
    rw [Comparator.stripSuffix?, List.isSuffixOf?_eq_some_iff_append_eq]
    simp [Comparator.nameFor]
  simp [comparatorType?, hstrip, h]

lemma isEmpty_intercalate {user : String} {users : List String} (huser : user ≠ "") :
    (", ".intercalate (user :: users)).isEmpty = false := by
  rw [← Bool.not_eq_true, String.isEmpty_iff]
  cases users with
  | nil => simpa using huser
  | cons other rest => simp [huser]

/-- A comparator that is used is listed by its signature and its calls. -/
lemma adviceLines_comparator {operandType user : String} {users : List String}
    (hType : operandType.toList ≠ []) (huser : user ≠ "") :
    (⟨Comparator.nameFor operandType, user :: users⟩ : Need).adviceLines =
      Comparator.advice operandType (user :: users) := by
  have hcall : ∀ call : String, call ++ "2)" ++ (" by " ++ ", ".intercalate (user :: users)) =
      call ++ "2) by " ++ ", ".intercalate (user :: users) := by
    intro call
    rw [← String.toList_inj]
    simp
  simp [adviceLines, comparatorType?_nameFor hType, isEmpty_intercalate huser, Comparator.advice,
    hcall]

end Need

/-! ## The note in the document -/

namespace Name

lemma exists_assertion_of_orderedType? {name : Name} {operandType : String}
    (h : name.orderedType? = some operandType) :
    ∃ a, name = assertion a ∧ a.operandType = operandType := by
  cases name with
  | assertion a =>
    rw [orderedType?] at h
    split at h
    · exact ⟨a, rfl, Option.some.inj h⟩
    · cases h
  | comparator | unrecognized => cases h

/-- The type that an assertion orders is an identifier. -/
lemma isIdentifier_of_orderedType? {token operandType : String}
    (h : (decode token).orderedType? = some operandType) :
    Identifier.isIdentifier operandType.toList = true := by
  obtain ⟨a, hdecode, rfl⟩ := exists_assertion_of_orderedType? h
  exact Assertion.isIdentifier_operandType hdecode

lemma ne_empty_of_orderedType? {token operandType : String}
    (h : (decode token).orderedType? = some operandType) : token ≠ "" := by
  have hempty : (decode "").orderedType? = none := by decide
  rintro rfl
  rw [hempty] at h
  cases h

end Name

namespace Run

variable {tokens : List String} {operandType : String}

lemma orderedType?_of_mem_ordersOf {token : String} (h : token ∈ ordersOf operandType tokens) :
    (Name.decode token).orderedType? = some operandType := by
  simpa using (List.mem_filter.1 h).2

lemma exists_mem_ordersOf (h : operandType ∈ orderedTypes tokens) :
    ∃ token, token ∈ ordersOf operandType tokens := by
  rw [orderedTypes, List.mem_eraseDups, List.mem_filterMap] at h
  obtain ⟨token, htoken, hType⟩ := h
  exact ⟨token, List.mem_filter.2 ⟨htoken, by simpa using hType⟩⟩

lemma isIdentifier_of_mem_orderedTypes (h : operandType ∈ orderedTypes tokens) :
    Identifier.isIdentifier operandType.toList = true := by
  obtain ⟨token, htoken⟩ := exists_mem_ordersOf h
  exact Name.isIdentifier_of_orderedType? (orderedType?_of_mem_ordersOf htoken)

lemma adviceLines_of_mem_orderedTypes (h : operandType ∈ orderedTypes tokens) :
    (⟨Comparator.nameFor operandType, ordersOf operandType tokens⟩ : Need).adviceLines =
      Comparator.advice operandType (ordersOf operandType tokens) := by
  have hType : operandType.toList ≠ [] := by
    intro hnil
    have hidentifier := isIdentifier_of_mem_orderedTypes h
    rw [hnil] at hidentifier
    cases hidentifier
  obtain ⟨token, htoken⟩ := exists_mem_ordersOf h
  obtain ⟨user, users, husers⟩ := List.exists_cons_of_ne_nil (List.ne_nil_of_mem htoken)
  have huser : user ∈ ordersOf operandType tokens := by
    rw [husers]
    exact List.mem_cons_self
  rw [husers]
  exact Need.adviceLines_comparator hType
    (Name.ne_empty_of_orderedType? (orderedType?_of_mem_ordersOf huser))

end Run

namespace Header

section

variable {types tokens : List String}
  (h : ∀ operandType ∈ types, operandType ∈ Run.orderedTypes tokens)

include h

lemma flatMap_adviceLines :
    (types.map fun operandType => (⟨Comparator.nameFor operandType,
      Run.ordersOf operandType tokens⟩ : Need)).flatMap Need.adviceLines =
        types.flatMap fun operandType =>
          Comparator.advice operandType (Run.ordersOf operandType tokens) := by
  rw [List.flatMap_map]
  exact List.flatMap_congr fun operandType hmem =>
    Run.adviceLines_of_mem_orderedTypes (h operandType hmem)

lemma adviceSection_comparators :
    adviceSection (types.map fun operandType =>
        ⟨Comparator.nameFor operandType, Run.ordersOf operandType tokens⟩) =
      Text.unlines (Comparator.noteLines types fun operandType =>
        Run.ordersOf operandType tokens) := by
  have hclose : ∀ lines : List String,
      Text.line (Text.unlines lines) = Text.unlines (lines ++ [""]) := by
    intro lines
    rw [Text.unlines_append, Text.unlines_singleton, Text.line, Text.line, String.empty_append]
  rw [adviceSection, Comparator.noteLines, List.isEmpty_map]
  split
  · rfl
  · rw [advice, adviceLines, flatMap_adviceLines h, hclose, List.append_assoc]
    rfl

end

/-- The comparators that a header leaves to the user. -/
lemma missing_ofTokens (settings : Settings) {tokens : List String} (hnodup : tokens.Nodup) :
    (Run.ofTokens settings tokens).resolve.header.missing =
      ((Run.orderedTypes tokens).filter fun operandType =>
        operandType ∉ Comparator.builtinTypes ∧ Comparator.nameFor operandType ∉ tokens).map
          fun operandType =>
            ⟨Comparator.nameFor operandType, Run.ordersOf operandType tokens⟩ := by
  rw [Run.missing_header, Run.resolve_ledger]
  exact Run.unresolved_fullHistory settings hnodup

lemma missing_resolve (settings : Settings) (lines : List String) :
    let tokens := (Run.candidates lines).eraseDups
    ((Run.start settings).feedLines lines).resolve.header.missing =
      ((Run.orderedTypes tokens).filter fun operandType =>
        operandType ∉ Comparator.builtinTypes ∧ Comparator.nameFor operandType ∉ tokens).map
          fun operandType =>
            ⟨Comparator.nameFor operandType, Run.ordersOf operandType tokens⟩ := by
  intro tokens
  rw [Run.feedLines_start]
  exact missing_ofTokens settings.normalized (Ledger.nodup_eraseDups _)

lemma guard_resolve (settings : Settings) (lines : List String) :
    ((Run.start settings).feedLines lines).resolve.header.guard = settings.guard := by
  rw [Run.guard_header, Run.feedLines_start]
  rfl

/-- What follows the note does not open a comment. -/
lemma head?_includeSection (includes : List String) (rest : String) :
    (includeSection includes ++ rest).toList.head? ≠ some '/' := by
  cases includes with
  | nil => simp [includeSection, Text.unlines, Text.line]
  | cons header others => simp [includeSection, Text.unlines, Text.line]

/-- **What the note lists.**  A header leaves to the user the comparators of the types that the
delivered assertions order, apart from numbers, strings and the types whose comparators were
delivered by name.  They stand in the order of the first assertions on them, each with all
assertions on its type.  The document opens with the guard and a note on exactly these comparators;
there is no note if there are none. -/
theorem missing_eq (settings : Settings) (lines : List String) :
    let tokens := (Run.candidates lines).eraseDups
    let header := ((Run.start settings).feedLines lines).resolve.header
    let types := (Run.orderedTypes tokens).filter fun operandType =>
      operandType ∉ Comparator.builtinTypes ∧ Comparator.nameFor operandType ∉ tokens
    header.missing = types.map (fun operandType =>
      ⟨Comparator.nameFor operandType, Run.ordersOf operandType tokens⟩) ∧
    ∃ rest, generate settings lines =
        Text.unlines (["#ifndef " ++ settings.guard, "#define " ++ settings.guard, ""] ++
          Comparator.noteLines types fun operandType => Run.ordersOf operandType tokens) ++ rest ∧
      rest.toList.head? ≠ some '/' := by
  intro tokens header types
  have hmissing : header.missing = types.map (fun operandType =>
      ⟨Comparator.nameFor operandType, Run.ordersOf operandType tokens⟩) :=
    missing_resolve settings lines
  have hguard : header.guard = settings.guard := guard_resolve settings lines
  have hordered : ∀ operandType ∈ types, operandType ∈ Run.orderedTypes tokens :=
    fun operandType hmem => List.mem_of_mem_filter hmem
  refine ⟨hmissing, _, ?_, head?_includeSection header.includes
    (blockSection header.comparators ++ blockSection header.assertions ++
      Text.line ("#endif /* " ++ header.guard ++ " */"))⟩
  show header.render = _
  rw [render, hmissing, adviceSection_comparators hordered, hguard, Text.unlines_append]
  simp only [String.append_assoc]

end Header

end AssertionHeader
