import AssertionHeader.Proofs.Document

/-!
# The include lines of a header

Two kinds of macros use what another header declares: an assertion on a null pointer uses `NULL`,
and every comparator but that of numbers calls a library function (`Name.usedHeader?`).
`Header.includes_eq` says that the include lines of a document are the headers that its macros use,
each once, in the order in which the macros were written.  The comparators that nobody asked for are
written last, so a header that only they use comes last.
-/

namespace AssertionHeader

open Text

/-! ## What a macro uses -/

namespace Name

/-- Whether the name spells an assertion on a null pointer. -/
def isNullCheck : Name → Bool
  | assertion a =>
    match a.condition with
    | .null _ => true
    | _ => false
  | comparator _ | unrecognized _ => false

/-- Whether the name spells a comparator that is not plain arithmetic. -/
def callsLibrary : Name → Bool
  | comparator c => c.style ≠ .arithmetic
  | assertion _ | unrecognized _ => false

/-- The header that declares what the macro of the name uses. -/
def usedHeader? (settings : Settings) (name : Name) : Option String :=
  if name.isNullCheck then some settings.nullHeader
  else if name.callsLibrary then some settings.stringHeader
  else none

lemma filterMap_included?_events (name : Name) (settings : Settings) :
    (name.events settings).filterMap LedgerEvent.included? =
      (name.usedHeader? settings).toList := by
  cases name with
  | assertion a =>
    cases hcondition : a.condition <;>
      simp [events, Assertion.events, Assertion.needs, usedHeader?, isNullCheck, callsLibrary,
        hcondition, LedgerEvent.included?]
  | comparator c =>
    cases hstyle : c.style <;>
      simp [events, Comparator.events, Comparator.needs, usedHeader?, isNullCheck, callsLibrary,
        hstyle, LedgerEvent.included?]
  | unrecognized token => rfl

lemma usedHeader?_eq_some_iff {settings : Settings} {name : Name} {header : String} :
    name.usedHeader? settings = some header ↔
      (name.isNullCheck = true ∧ settings.nullHeader = header) ∨
        (name.callsLibrary = true ∧ settings.stringHeader = header) := by
  -- No macro is of both kinds.
  have hexclusive : name.isNullCheck = true → name.callsLibrary = false := by
    cases name with
    | assertion | unrecognized => exact fun _ => rfl
    | comparator => exact fun h => Bool.noConfusion h
  rw [usedHeader?]
  split
  · next h => simp [h, hexclusive h]
  · next h => split <;> simp_all

lemma isComparator_of_callsLibrary {name : Name} (h : name.callsLibrary = true) :
    name.isComparator = true := by
  cases name with
  | comparator => rfl
  | assertion | unrecognized => cases h

lemma isComparator_of_isNullCheck {name : Name} (h : name.isNullCheck = true) :
    name.isComparator = false := by
  cases name with
  | assertion => rfl
  | comparator | unrecognized => cases h

lemma exists_ofType_of_isComparator {token : String} (h : (decode token).isComparator = true) :
    ∃ operandType, decode token = comparator (.ofType operandType) ∧
      token = Comparator.nameFor operandType := by
  cases hdecode : decode token with
  | comparator c =>
    obtain ⟨operandType, -, rfl⟩ := decode_eq_comparator_iff.1 hdecode
    refine ⟨String.ofList operandType, rfl, ?_⟩
    rw [← text_decode token, hdecode]
    rfl
  | assertion | unrecognized =>
    rw [hdecode] at h
    cases h

end Name

namespace Comparator

lemma styleFor_eq_arithmetic_iff {operandType : String} :
    styleFor operandType = .arithmetic ↔ operandType = "Number" := by
  rw [styleFor]
  split
  · next h => exact iff_of_true rfl h
  · next h => split <;> exact iff_of_false CompareStyle.noConfusion h

end Comparator

namespace Name

/-- Every comparator but that of numbers calls a library function. -/
lemma callsLibrary_decode_iff {token : String} :
    (decode token).callsLibrary = true ↔
      (decode token).isComparator = true ∧ token ≠ "Number_compare" := by
  constructor
  · intro h
    have hcomparator := isComparator_of_callsLibrary h
    refine ⟨hcomparator, ?_⟩
    rintro rfl
    revert h
    decide
  · rintro ⟨hcomparator, hnumber⟩
    obtain ⟨operandType, hdecode, rfl⟩ := exists_ofType_of_isComparator hcomparator
    have hType : operandType ≠ "Number" := by
      rintro rfl
      exact hnumber rfl
    rw [hdecode, callsLibrary, decide_eq_true_iff]
    exact mt Comparator.styleFor_eq_arithmetic_iff.1 hType

end Name

/-! ## What the text of a comparator calls -/

/-- The block defines a macro of two parameters as a call of the function. -/
def Block.Calls (block : Block) (function : String) : Prop :=
  ∃ arguments,
    block.text = "#define " ++ block.name ++ "(a, b) " ++ function ++ "(" ++ arguments ++ ")\n"

namespace Comparator

variable {comparator : Comparator} {settings : Settings}

lemma calls_block_iff {function : String} :
    (comparator.block settings).Calls function ↔
      ∃ arguments, comparator.body = function ++ "(" ++ arguments ++ ")" := by
  refine exists_congr fun arguments => ?_
  have htext : (comparator.block settings).text =
      "#define " ++ comparator.name ++ "(a, b) " ++ comparator.body ++ "\n" := rfl
  have hcall : ∀ opening : String, opening ++ function ++ "(" ++ arguments ++ ")\n" =
      opening ++ (function ++ "(" ++ arguments ++ ")") ++ "\n" := by
    simp [← String.toList_inj]
  rw [htext, hcall, String.append_left_inj]
  exact String.append_right_inj _

/-- A comparator is plain arithmetic, or it calls one of two library functions. -/
lemma calls_block_iff_style :
    (comparator.block settings).Calls "strcmp" ∨ (comparator.block settings).Calls "memcmp" ↔
      comparator.style ≠ .arithmetic := by
  rw [calls_block_iff, calls_block_iff]
  cases hstyle : comparator.style with
  | arithmetic =>
    simp [body, hstyle, ← String.toList_inj]
  | lexical =>
    refine iff_of_true (.inl ⟨"(a), (b)", ?_⟩) CompareStyle.noConfusion
    rw [body, hstyle]
    rfl
  | bytewise =>
    refine iff_of_true (.inr ⟨"&(a), &(b), sizeof(" ++ comparator.operandType ++ ")", ?_⟩)
      CompareStyle.noConfusion
    simp [body, hstyle, ← String.toList_inj]

end Comparator

/-! ## The macros of a run -/

namespace Run

/-- The tokens and, behind them, the names of the comparators that nobody asked for: the macros of a
header in the order in which they are written. -/
def macroOrder (tokens : List String) : List String :=
  tokens ++ (unaskedTypes tokens).map Comparator.nameFor

/-- Writing a comparator that nobody asked for is writing what its name spells. -/
lemma fullHistory_eq (settings : Settings) (tokens : List String) :
    fullHistory settings tokens = history settings (macroOrder tokens) := by
  have hnames : ((unaskedTypes tokens).map Comparator.nameFor).map Name.decode =
      (builtins settings tokens).map .comparator := by
    rw [builtins_eq, List.map_map, List.map_map]
    exact List.map_congr_left fun operandType hmem => decode_nameFor_of_mem_unaskedTypes hmem
  rw [fullHistory, history, history, macroOrder, List.map_append, List.flatMap_append, hnames,
    List.flatMap_map, List.flatMap_map]
  rfl

lemma includedBy_history (settings : Settings) (tokens : List String) :
    Ledger.includedBy (history settings tokens) =
      (tokens.filterMap fun token => (Name.decode token).usedHeader? settings).eraseDups := by
  rw [Ledger.includedBy, history, List.filterMap_flatMap, List.flatMap_map]
  simp only [Name.filterMap_included?_events]
  rw [List.filterMap_eq_flatMap_toList]

/-- The headers that the macros of a run use, in the order in which the macros are written. -/
lemma includes_resolve (settings : Settings) (lines : List String) :
    ((start settings).feedLines lines).resolve.header.includes =
      ((macroOrder (candidates lines).eraseDups).filterMap fun token =>
        (Name.decode token).usedHeader? settings).eraseDups := by
  rw [includes_header, feedLines_start, resolve_ledger, fullHistory_eq]
  exact includedBy_history settings.normalized _

variable {tokens : List String} {token : String}

lemma spellsComparator_of_unasked (h : token ∈ (unaskedTypes tokens).map Comparator.nameFor) :
    spellsComparator token = true := by
  obtain ⟨operandType, hType, rfl⟩ := List.mem_map.1 h
  rw [spellsComparator, decode_nameFor_of_mem_unaskedTypes hType]
  rfl

/-- The comparators of a header are its macros that are comparators. -/
lemma mem_comparatorTokens_iff :
    token ∈ comparatorTokens tokens ↔
      token ∈ macroOrder tokens ∧ spellsComparator token = true := by
  rw [comparatorTokens, macroOrder, List.mem_append, List.mem_append, List.mem_filter]
  constructor
  · rintro (⟨hmem, hspells⟩ | hmem)
    · exact ⟨.inl hmem, hspells⟩
    · exact ⟨.inr hmem, spellsComparator_of_unasked hmem⟩
  · rintro ⟨hmem | hmem, hspells⟩
    · exact .inl ⟨hmem, hspells⟩
    · exact .inr hmem

/-- Only tokens that were delivered spell assertions. -/
lemma mem_macroOrder_of_not_isComparator (h : spellsComparator token = false) :
    token ∈ macroOrder tokens ↔ token ∈ tokens := by
  refine ⟨fun hmem => ?_, fun hmem => List.mem_append_left _ hmem⟩
  rcases List.mem_append.1 hmem with hmem | hmem
  · exact hmem
  · rw [spellsComparator_of_unasked hmem] at h
    cases h

/-- A header has a comparator that calls a library function if the name of one was delivered, or
strings are ordered. -/
lemma exists_comparatorTokens_iff :
    (∃ token ∈ comparatorTokens tokens, token ≠ "Number_compare") ↔
      (∃ token ∈ tokens, spellsComparator token = true ∧ token ≠ "Number_compare") ∨
        ∃ token ∈ tokens, (Name.decode token).orderedType? = some "String" := by
  have hstring : "String" ∈ orderedTypes tokens ↔
      ∃ token ∈ tokens, (Name.decode token).orderedType? = some "String" := by
    rw [orderedTypes, List.mem_eraseDups, List.mem_filterMap]
  rw [← hstring]
  constructor
  · rintro ⟨token, hmem, hnumber⟩
    rcases List.mem_append.1 hmem with hmem | hmem
    · obtain ⟨hfed, hspells⟩ := List.mem_filter.1 hmem
      exact .inl ⟨token, hfed, hspells, hnumber⟩
    · obtain ⟨operandType, hType, rfl⟩ := List.mem_map.1 hmem
      obtain ⟨hordered, hbuiltin, -⟩ := mem_unaskedTypes.1 hType
      simp only [Comparator.builtinTypes, List.mem_cons, List.not_mem_nil, or_false] at hbuiltin
      rcases hbuiltin with rfl | rfl
      · exact absurd rfl hnumber
      · exact .inr hordered
  · rintro (⟨token, hfed, hspells, hnumber⟩ | hordered)
    · exact ⟨token, List.mem_append_left _ (List.mem_filter.2 ⟨hfed, hspells⟩), hnumber⟩
    · refine ⟨Comparator.nameFor "String", ?_, by decide⟩
      by_cases hfed : Comparator.nameFor "String" ∈ tokens
      · exact List.mem_append_left _ (List.mem_filter.2 ⟨hfed, by decide⟩)
      · refine List.mem_append_right _ (List.mem_map_of_mem ?_)
        exact mem_unaskedTypes.2 ⟨hordered, by decide, hfed⟩

end Run

/-! ## The include lines -/

namespace Header

section

variable (settings : Settings) (lines : List String)

/-- What can be said of the names of the comparators in a header. -/
lemma exists_comparator_iff (p : String → Prop) :
    (∃ block ∈ ((Run.start settings).feedLines lines).resolve.header.comparators, p block.name) ↔
      ∃ token ∈ Run.comparatorTokens (Run.candidates lines).eraseDups, p token := by
  rw [Run.header_comparators]
  simp [Run.name_blockOf]

/-- The comparators that call a library function are all but that of numbers. -/
lemma calls_iff_name_ne {block : Block}
    (h : block ∈ ((Run.start settings).feedLines lines).resolve.header.comparators) :
    block.Calls "strcmp" ∨ block.Calls "memcmp" ↔ block.name ≠ "Number_compare" := by
  rw [Run.header_comparators] at h
  obtain ⟨token, hmem, rfl⟩ := List.mem_map.1 h
  have hspells := (Run.mem_comparatorTokens_iff.1 hmem).2
  obtain ⟨operandType, hdecode, htoken⟩ := Name.exists_ofType_of_isComparator hspells
  have hnumber : token = "Number_compare" ↔ operandType = "Number" := by
    rw [htoken]
    exact Comparator.nameFor_inj (t := "Number")
  rw [Run.name_blockOf, ne_eq, hnumber, ← Comparator.styleFor_eq_arithmetic_iff, Run.blockOf,
    hdecode]
  exact Comparator.calls_block_iff_style

lemma mem_includes_iff {name : String} :
    name ∈ ((Run.start settings).feedLines lines).resolve.header.includes ↔
      (name = settings.nullHeader ∧
        ∃ token ∈ Run.candidates lines, (Name.decode token).isNullCheck = true) ∨
      (name = settings.stringHeader ∧
        ∃ token ∈ Run.comparatorTokens (Run.candidates lines).eraseDups,
          token ≠ "Number_compare") := by
  rw [Run.includes_resolve, List.mem_eraseDups, List.mem_filterMap]
  simp only [Name.usedHeader?_eq_some_iff]
  constructor
  · rintro ⟨token, hmem, ⟨hnull, rfl⟩ | ⟨hlibrary, rfl⟩⟩
    · have hassertion := Name.isComparator_of_isNullCheck hnull
      rw [Run.mem_macroOrder_of_not_isComparator hassertion, List.mem_eraseDups] at hmem
      exact .inl ⟨rfl, token, hmem, hnull⟩
    · obtain ⟨hcomparator, hnumber⟩ := Name.callsLibrary_decode_iff.1 hlibrary
      exact .inr ⟨rfl, token, Run.mem_comparatorTokens_iff.2 ⟨hmem, hcomparator⟩, hnumber⟩
  · rintro (⟨rfl, token, hmem, hnull⟩ | ⟨rfl, token, hmem, hnumber⟩)
    · exact ⟨token, List.mem_append_left _ (List.mem_eraseDups.2 hmem), .inl ⟨hnull, rfl⟩⟩
    · obtain ⟨hwritten, hcomparator⟩ := Run.mem_comparatorTokens_iff.1 hmem
      exact ⟨token, hwritten, .inr ⟨Name.callsLibrary_decode_iff.2 ⟨hcomparator, hnumber⟩, rfl⟩⟩

lemma nodup_includes : ((Run.start settings).feedLines lines).resolve.header.includes.Nodup := by
  rw [Run.includes_resolve]
  exact Ledger.nodup_eraseDups _

/-- When both headers have one name, it is included once. -/
lemma length_includes_le (h : settings.nullHeader = settings.stringHeader) :
    ((Run.start settings).feedLines lines).resolve.header.includes.length ≤ 1 := by
  have hname : ∀ name ∈ ((Run.start settings).feedLines lines).resolve.header.includes,
      name = settings.stringHeader := by
    intro name hmem
    rcases (mem_includes_iff settings lines).1 hmem with ⟨hnull, -⟩ | ⟨hstring, -⟩
    · exact hnull.trans h
    · exact hstring
  have hnodup := nodup_includes settings lines
  rw [List.eq_replicate_of_mem hname, List.nodup_replicate] at hnodup
  exact hnodup

/-- The parts of a document. -/
lemma generate_eq :
    let header := ((Run.start settings).feedLines lines).resolve.header
    generate settings lines =
      unlines ["#ifndef " ++ settings.guard, "#define " ++ settings.guard, ""] ++
        adviceSection header.missing ++
        unlines (header.includes.map ("#include <" ++ · ++ ">") ++ [""]) ++
        blockSection header.comparators ++ blockSection header.assertions ++
        line ("#endif /* " ++ settings.guard ++ " */") := by
  intro header
  rw [← guard_resolve settings lines]
  rfl

/-- The include lines of a document are those of its headers. -/
lemma filter_include_linesOf (hsettings : settings.IsSingleLine) :
    (linesOf (generate settings lines)).filter (opensWith "#include ") =
      ((Run.start settings).feedLines lines).resolve.header.includes.map
        ("#include <" ++ · ++ ">") := by
  rw [filter_linesOf_generate hsettings lines (by decide), Run.filter_others _ (by decide)]
  simp [closing, opensWith, List.isPrefixOf, List.filter_map, Function.comp_def]

end

/-- **A document includes what its macros use.**  The headers of a document are those that its
macros use, each once, in the order in which the macros were written: those of the distinct names
that the lines deliver and, behind them, the comparators that were requested and not delivered.

The header of `NULL` is included exactly if a delivered name spells an assertion on a null pointer.
The header of the library functions is included exactly if a comparator other than that of numbers
stands in the document, that is, one that calls `strcmp` or `memcmp`; it does if its name was
delivered or an assertion orders strings.  No other header is included, and one line is written when
both have the same name.

In the document the include lines stand between the note and the blocks.  If no text of the settings
has a line feed, no other line of the document includes anything. -/
theorem includes_eq (settings : Settings) (lines : List String) :
    let tokens := (Run.candidates lines).eraseDups
    let header := ((Run.start settings).feedLines lines).resolve.header
    let written := tokens ++ (Run.unaskedTypes tokens).map Comparator.nameFor
    header.includes =
      (written.filterMap fun token => (Name.decode token).usedHeader? settings).eraseDups ∧
    header.includes.Nodup ∧
    (∀ name, name ∈ header.includes ↔
      (name = settings.nullHeader ∧
        ∃ token ∈ Run.candidates lines, (Name.decode token).isNullCheck = true) ∨
      (name = settings.stringHeader ∧
        ∃ block ∈ header.comparators, block.name ≠ "Number_compare")) ∧
    (∀ block ∈ header.comparators,
      block.Calls "strcmp" ∨ block.Calls "memcmp" ↔ block.name ≠ "Number_compare") ∧
    ((∃ block ∈ header.comparators, block.name ≠ "Number_compare") ↔
      (∃ token ∈ Run.candidates lines,
        Run.spellsComparator token = true ∧ token ≠ "Number_compare") ∨
      ∃ token ∈ Run.candidates lines, (Name.decode token).orderedType? = some "String") ∧
    (settings.nullHeader = settings.stringHeader → header.includes.length ≤ 1) ∧
    generate settings lines =
      unlines ["#ifndef " ++ settings.guard, "#define " ++ settings.guard, ""] ++
        adviceSection header.missing ++
        unlines (header.includes.map ("#include <" ++ · ++ ">") ++ [""]) ++
        blockSection header.comparators ++ blockSection header.assertions ++
        line ("#endif /* " ++ settings.guard ++ " */") ∧
    (settings.IsSingleLine →
      (linesOf (generate settings lines)).filter (opensWith "#include ") =
        header.includes.map ("#include <" ++ · ++ ">")) := by
  intro tokens header written
  have hcomparators : (∃ block ∈ header.comparators, block.name ≠ "Number_compare") ↔
      ∃ token ∈ Run.comparatorTokens tokens, token ≠ "Number_compare" :=
    exists_comparator_iff settings lines (· ≠ "Number_compare")
  refine ⟨Run.includes_resolve settings lines, nodup_includes settings lines, fun name => ?_,
    fun block hmem => calls_iff_name_ne settings lines hmem, ?_, length_includes_le settings lines,
    generate_eq settings lines, filter_include_linesOf settings lines⟩
  · rw [hcomparators]
    exact mem_includes_iff settings lines
  · rw [hcomparators, Run.exists_comparatorTokens_iff]
    simp only [tokens, List.mem_eraseDups]

/-- An assertion on strings and one on a null pointer, where one header declares all they use. -/
theorem includes_eq_one_header :
    let settings : Settings := { stringHeader := "stddef.h" }
    settings.nullHeader = settings.stringHeader ∧ settings.IsSingleLine ∧
      (linesOf (generate settings ["Assert_NULL", "AssertStringEQ"])).filter
        (opensWith "#include ") = ["#include <stddef.h>"] := by
  intro settings
  have hsettings : settings.IsSingleLine := by
    constructor <;> decide
  obtain ⟨-, -, hmem, -, -, hlength, -, hlines⟩ :=
    includes_eq settings ["Assert_NULL", "AssertStringEQ"]
  have hnull : "stddef.h" ∈ ((Run.start settings).feedLines
      ["Assert_NULL", "AssertStringEQ"]).resolve.header.includes := by
    refine (hmem _).2 (.inl ⟨rfl, "Assert_NULL", ?_, ?_⟩) <;> decide
  refine ⟨rfl, hsettings, (hlines hsettings).trans ?_⟩
  obtain ⟨name, hname⟩ := List.length_eq_one_iff.1
    (Nat.le_antisymm (hlength rfl) (List.length_pos_of_mem hnull))
  rw [hname, List.mem_singleton] at hnull
  rw [hname, ← hnull]
  rfl

end Header

end AssertionHeader
