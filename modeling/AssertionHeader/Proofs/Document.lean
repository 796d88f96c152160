import AssertionHeader.Proofs.Advice
import AssertionHeader.Proofs.Directives
import AssertionHeader.Proofs.Sections
import Mathlib.Data.List.Nodup

/-!
# The lines of a document

A document is the guard, the note, the include lines, the blocks and the end of the guard
(`Header.exists_lines`).  `Header.directives_generate` lists the lines that the preprocessor reads:
the guard at both ends, the include lines, and one line for each block.  No name that is delivered,
whatever text it is, can add a line to these, hide one or repeat one.
-/

namespace AssertionHeader

open Text

/-! ## The parts of a document -/

namespace Name

lemma includeHeader_mem_events {name : Name} {settings : Settings} {header : String}
    (h : .includeHeader header ∈ name.events settings) :
    header = settings.nullHeader ∨ header = settings.stringHeader := by
  cases name with
  | assertion a =>
    cases hcondition : a.condition <;>
      simp_all [events, Assertion.events, Assertion.needs]
  | comparator c =>
    cases hstyle : c.style <;> simp_all [events, Comparator.events, Comparator.needs]
  | unrecognized token => simp [events, Diagnostic.events] at h

end Name

namespace Run

/-- The tokens whose blocks stand in the header of the given tokens, in their order. -/
def writtenTokens (tokens : List String) : List String :=
  comparatorTokens tokens ++ tokens.filter (!spellsComparator ·)

lemma isIdentifier_of_mem_comparatorTokens {tokens : List String} {token : String}
    (h : token ∈ comparatorTokens tokens) : Identifier.isIdentifier token.toList = true := by
  have hbuiltins : ∀ operandType ∈ Comparator.builtinTypes,
      Identifier.isIdentifier (Comparator.nameFor operandType).toList = true := by
    decide
  rcases List.mem_append.1 h with h | h
  · refine Name.isIdentifier_of_ne fun hdecode => ?_
    have hspells := (List.mem_filter.1 h).2
    rw [spellsComparator, hdecode] at hspells
    cases hspells
  · obtain ⟨operandType, hmem, rfl⟩ := List.mem_map.1 h
    exact hbuiltins operandType (mem_unaskedTypes.1 hmem).2.1

/-- No two blocks have one name. -/
lemma nodup_writtenTokens {tokens : List String} (h : tokens.Nodup) :
    (writtenTokens tokens).Nodup := by
  have hunasked : ∀ token ∈ (unaskedTypes tokens).map Comparator.nameFor, token ∉ tokens := by
    intro token hmem
    obtain ⟨operandType, hType, rfl⟩ := List.mem_map.1 hmem
    exact (mem_unaskedTypes.1 hType).2.2
  have hcomparators : (comparatorTokens tokens).Nodup := by
    have hnames := List.Nodup.map Comparator.nameFor_injective (nodup_unaskedTypes tokens)
    refine List.nodup_append.2 ⟨h.filter _, hnames, ?_⟩
    rintro token hfed _ hmem rfl
    exact hunasked token hmem (List.mem_of_mem_filter hfed)
  refine List.nodup_append.2 ⟨hcomparators, h.filter _, ?_⟩
  rintro token hcomparator _ hmem rfl
  obtain ⟨hfed, hspells⟩ := List.mem_filter.1 hmem
  rcases List.mem_append.1 hcomparator with hother | hother
  · rw [(List.mem_filter.1 hother).2] at hspells
    cases hspells
  · exact hunasked token hother hfed

/-- What the note says of a comparator is on lines of its own, and cannot close the note. -/
lemma lacks_of_mem_advice {tokens : List String} {operandType : String}
    (h : operandType ∈ orderedTypes tokens) {c : Char} (hc : c = '\n' ∨ c = '/') :
    ∀ text ∈ Comparator.advice operandType (ordersOf operandType tokens), Lacks c text := by
  have hpart : Identifier.isPart c = false := by
    rcases hc with rfl | rfl <;> decide
  have hmarks : Lacks c " *   int " ∧ Lacks c "(" ∧ Lacks c " a, " ∧ Lacks c " b);" ∧
      Lacks c " *       called as " ∧ Lacks c "1," ∧ Lacks c "2) by " ∧
      Lacks c Comparator.suffix := by
    rcases hc with rfl | rfl <;> decide
  have hcomma : Lacks c ", " := by
    rcases hc with rfl | rfl <;> decide
  have hType : Lacks c operandType :=
    lacks_of_isIdentifier hpart (isIdentifier_of_mem_orderedTypes h)
  have husers : Lacks c (", ".intercalate (ordersOf operandType tokens)) := by
    refine lacks_intercalate hcomma fun user huser => ?_
    refine lacks_of_isIdentifier hpart (Name.isIdentifier_of_ne fun hdecode => ?_)
    have horders := orderedType?_of_mem_ordersOf huser
    rw [hdecode] at horders
    cases horders
  simp [Comparator.advice, Comparator.nameFor, hmarks, hType, husers]

/-- What the note says of a comparator has no directives. -/
lemma isLine_of_mem_advice {tokens : List String} {operandType : String}
    (h : operandType ∈ orderedTypes tokens) :
    ∀ text ∈ Comparator.advice operandType (ordersOf operandType tokens),
      IsLine text ∧ isDirective text = false := by
  have hdirective : ∀ text ∈ Comparator.advice operandType (ordersOf operandType tokens),
      isDirective text = false := by
    simp [Comparator.advice, isDirective, opensWith, List.isPrefixOf]
  exact fun text hmem => ⟨lacks_of_mem_advice h (.inl rfl) text hmem, hdirective text hmem⟩

end Run

namespace Header

/-- What stands between the opening line and the blocks. -/
def front (header : Header) : String :=
  unlines ["#define " ++ header.guard, ""] ++ adviceSection header.missing ++
    includeSection header.includes

/-- The blocks of a header. -/
def sections (header : Header) : String :=
  blockSection header.comparators ++ blockSection header.assertions

/-- The last line of a header. -/
def closing (header : Header) : String :=
  "#endif /* " ++ header.guard ++ " */"

lemma render_eq (header : Header) : header.render =
    unlines ["#ifndef " ++ header.guard] ++ header.front ++ header.sections ++
      unlines [header.closing] := by
  have hopening := unlines_append ["#ifndef " ++ header.guard] ["#define " ++ header.guard, ""]
  rw [List.singleton_append] at hopening
  rw [render, front, sections, closing, hopening, unlines_singleton (_ ++ " */")]
  simp only [String.append_assoc]

lemma hasDirectives_includeSection {includes : List String}
    (h : ∀ name ∈ includes, IsLine name) :
    HasDirectives (includeSection includes) (includes.map ("#include <" ++ · ++ ">")) := by
  have hmarks : IsLine "#include <" ∧ IsLine ">" ∧ IsLine "" := by decide
  refine HasDirectives.of_lines ?_ ?_
  · simp only [List.mem_append, List.mem_map, List.mem_singleton]
    rintro _ (⟨name, hname, rfl⟩ | rfl)
    · simp [hmarks, h name hname]
    · exact hmarks.2.2
  · rw [List.filter_append, List.filter_eq_self.2]
    · exact List.append_nil _
    · intro text htext
      obtain ⟨name, -, rfl⟩ := List.mem_map.1 htext
      simp [isDirective, opensWith, List.isPrefixOf]

/-- The note has no directives. -/
lemma hasDirectives_adviceSection (settings : Settings) (lines : List String) :
    HasDirectives
      (adviceSection ((Run.start settings).feedLines lines).resolve.header.missing) [] := by
  rw [missing_resolve, adviceSection_comparators fun _ hmem => List.mem_of_mem_filter hmem]
  have hopening : ∀ text ∈
      ["/*", " * Unresolved dependencies; define these before using the macros below:", " *"],
      IsLine text ∧ isDirective text = false := by
    simp [IsLine, isDirective, opensWith, List.isPrefixOf]
  have hclosing : ∀ text ∈ [" */", ""], IsLine text ∧ isDirective text = false := by
    simp [IsLine, isDirective, opensWith, List.isPrefixOf]
  refine HasDirectives.unlines_nil fun text htext => ?_
  rw [Comparator.noteLines] at htext
  split at htext
  · cases htext
  · rcases List.mem_append.1 htext with htext | htext
    · rcases List.mem_append.1 htext with htext | htext
      · exact hopening text htext
      · obtain ⟨operandType, hType, hadvice⟩ := List.mem_flatMap.1 htext
        exact Run.isLine_of_mem_advice (List.mem_of_mem_filter hType) text hadvice
    · exact hclosing text htext

section

variable {settings : Settings} (hsettings : settings.IsSingleLine) (lines : List String)

include hsettings

lemma isLine_of_mem_includes :
    ∀ name ∈ ((Run.start settings).feedLines lines).resolve.header.includes, IsLine name := by
  intro name hmem
  rw [Run.includes_header, Run.feedLines_start, Run.resolve_ledger] at hmem
  have hevent : name = settings.nullHeader ∨ name = settings.stringHeader := by
    rcases List.mem_append.1 (Ledger.mem_includedBy.1 hmem) with h | h
    · obtain ⟨decoded, -, h⟩ := List.mem_flatMap.1 h
      exact Name.includeHeader_mem_events h
    · obtain ⟨comparator, -, h⟩ := List.mem_flatMap.1 h
      exact @Name.includeHeader_mem_events (.comparator comparator) settings.normalized name h
  rcases hevent with rfl | rfl
  · exact hsettings.nullHeader
  · exact hsettings.stringHeader

lemma hasDirectives_blockSection (tokens : List String) :
    HasDirectives (blockSection (tokens.map (Run.blockOf settings)))
      (tokens.map fun token => (Name.decode token).directive) := by
  have hblock : ∀ token ∈ tokens, HasDirectives (line (Run.blockOf settings token).render)
      [(Name.decode token).directive] :=
    fun token _ => Name.hasDirectives_block hsettings.normalized token
  have hjoin := HasDirectives.join hblock
  rw [← List.map_eq_flatMap] at hjoin
  rw [blockSection, unlines, List.map_map, List.map_map]
  exact hjoin

lemma hasDirectives_front :
    let header := ((Run.start settings).feedLines lines).resolve.header
    HasDirectives header.front
      (("#define " ++ settings.guard) :: header.includes.map ("#include <" ++ · ++ ">")) := by
  intro header
  have hmarks : IsLine "#define " ∧ IsLine "" := by decide
  have hguard : HasDirectives (unlines ["#define " ++ settings.guard, ""])
      ["#define " ++ settings.guard] := by
    refine HasDirectives.of_lines ?_ ?_
    · simp [hmarks, hsettings.guard]
    · simp [isDirective, opensWith, List.isPrefixOf]
  have hincludes : HasDirectives (includeSection header.includes)
      (header.includes.map ("#include <" ++ · ++ ">")) :=
    hasDirectives_includeSection (isLine_of_mem_includes hsettings lines)
  rw [front, guard_resolve]
  exact (hguard.append (hasDirectives_adviceSection settings lines)).append hincludes

lemma hasDirectives_sections :
    HasDirectives ((Run.start settings).feedLines lines).resolve.header.sections
      ((Run.writtenTokens (Run.candidates lines).eraseDups).map fun token =>
        (Name.decode token).directive) := by
  rw [sections, Run.header_comparators, Run.header_assertions, Run.writtenTokens, List.map_append]
  exact (hasDirectives_blockSection hsettings _).append (hasDirectives_blockSection hsettings _)

/-- The lines of a document, in which the guard opens and closes, the include lines stand before the
blocks, and each block has one directive. -/
lemma exists_lines :
    let header := ((Run.start settings).feedLines lines).resolve.header
    ∃ front blocks,
      linesOf (generate settings lines) =
        ["#ifndef " ++ settings.guard] ++ front ++ blocks ++ [header.closing, ""] ∧
      linesOf (header.sections ++ line header.closing) = blocks ++ [header.closing, ""] ∧
      front.filter isDirective =
        ("#define " ++ settings.guard) :: header.includes.map ("#include <" ++ · ++ ">") ∧
      blocks.filter isDirective =
        (Run.writtenTokens (Run.candidates lines).eraseDups).map fun token =>
          (Name.decode token).directive := by
  intro header
  have hname : header.guard = settings.guard := guard_resolve settings lines
  have hopening : IsLine ("#ifndef " ++ settings.guard) :=
    isLine_append.2 ⟨by decide, hsettings.guard⟩
  have hclosing : IsLine header.closing := by
    rw [closing, hname, isLine_append, isLine_append]
    exact ⟨⟨by decide, hsettings.guard⟩, by decide⟩
  obtain ⟨front, hfront, hfrontLines, hfrontDirectives⟩ := hasDirectives_front hsettings lines
  obtain ⟨blocks, hblocks, hblocksLines, hblocksDirectives⟩ :=
    hasDirectives_sections hsettings lines
  have htext : generate settings lines = unlines
      (["#ifndef " ++ settings.guard] ++ front ++ blocks ++ [header.closing]) := by
    rw [unlines_append, unlines_append, unlines_append, ← hfront, ← hblocks, ← hname]
    exact render_eq header
  refine ⟨front, blocks, ?_, ?_, hfrontDirectives, hblocksDirectives⟩
  · rw [htext, linesOf_unlines, List.append_assoc _ [header.closing]]
    · rfl
    · simp only [List.mem_append, List.mem_singleton]
      rintro text (((rfl | htext) | htext) | rfl)
      · exact hopening
      · exact hfrontLines text htext
      · exact hblocksLines text htext
      · exact hclosing
  · rw [hblocks, ← unlines_singleton, linesOf_unlines_append hblocksLines, linesOf_unlines]
    · rfl
    · exact List.forall_mem_singleton.2 hclosing

end

end Header

/-! ## Definitions and errors -/

namespace Name

/-- The directive of a token is a definition or an error. -/
lemma opensWith_directive (token : String) :
    opensWith "#define " (decode token).directive = Identifier.isIdentifier token.toList ∧
      opensWith "#error " (decode token).directive = !Identifier.isIdentifier token.toList ∧
      ∀ word ∈ ["#include ", "#ifndef", "#endif"],
        opensWith word (decode token).directive = false := by
  cases htoken : Identifier.isIdentifier token.toList with
  | true =>
    obtain ⟨rest, htext⟩ := directive_of_isIdentifier htoken
    simp [opensWith, htext, List.isPrefixOf]
  | false =>
    have hdirective := directive_of_not_isIdentifier htoken
    simp [opensWith, hdirective, List.isPrefixOf]

end Name

namespace Run

variable (tokens : List String)

lemma filter_definitions :
    (tokens.map fun token => (Name.decode token).directive).filter (opensWith "#define ") =
      (tokens.filter fun token => Identifier.isIdentifier token.toList).map fun token =>
        (Name.decode token).directive := by
  rw [List.filter_map]
  congr 1
  exact List.filter_congr fun token _ => (Name.opensWith_directive token).1

lemma filter_errors :
    (tokens.map fun token => (Name.decode token).directive).filter (opensWith "#error ") =
      (tokens.filter fun token => !Identifier.isIdentifier token.toList).map fun token =>
        "#error " ++ Diagnostic.literal token := by
  rw [List.filter_map]
  have hkind : tokens.filter (opensWith "#error " ∘ fun token => (Name.decode token).directive) =
      tokens.filter fun token => !Identifier.isIdentifier token.toList :=
    List.filter_congr fun token _ => (Name.opensWith_directive token).2.1
  rw [hkind]
  refine List.map_congr_left fun token hmem => Name.directive_of_not_isIdentifier ?_
  simpa using (List.mem_filter.1 hmem).2

lemma filter_others {word : String} (hword : word ∈ ["#include ", "#ifndef", "#endif"]) :
    (tokens.map fun token => (Name.decode token).directive).filter (opensWith word) = [] := by
  rw [List.filter_eq_nil_iff]
  intro directive hmem
  obtain ⟨token, -, rfl⟩ := List.mem_map.1 hmem
  rw [(Name.opensWith_directive token).2.2 word hword]
  exact Bool.false_ne_true

/-- The written tokens that are no identifiers are the delivered ones of this kind that spell
nothing. -/
lemma filter_not_isIdentifier_writtenTokens :
    ((writtenTokens tokens).filter fun token => !Identifier.isIdentifier token.toList) =
      tokens.filter fun token =>
        Name.decode token = .unrecognized token ∧ ¬ Identifier.isIdentifier token.toList := by
  have hcomparators : ((comparatorTokens tokens).filter fun token =>
      !Identifier.isIdentifier token.toList) = [] := by
    rw [List.filter_eq_nil_iff]
    intro token hmem
    rw [isIdentifier_of_mem_comparatorTokens hmem]
    exact Bool.false_ne_true
  rw [writtenTokens, List.filter_append, hcomparators, List.nil_append, List.filter_filter]
  refine List.filter_congr fun token _ => ?_
  cases htoken : Identifier.isIdentifier token.toList with
  | true => simp
  | false =>
    have hdecode := Name.decode_of_not_isIdentifier htoken
    simp [spellsComparator, hdecode, Name.isComparator]

/-- The macros that a header defines have the names of the written tokens that are identifiers. -/
lemma names_macros (settings : Settings) (lines : List String) :
    let header := ((start settings).feedLines lines).resolve.header
    (header.comparators ++ header.assertions.filter fun block =>
      Identifier.isIdentifier block.name.toList).map (·.name) =
        (writtenTokens (candidates lines).eraseDups).filter fun token =>
          Identifier.isIdentifier token.toList := by
  intro header
  have hcomparators : ((comparatorTokens (candidates lines).eraseDups).filter fun token =>
      Identifier.isIdentifier token.toList) = comparatorTokens (candidates lines).eraseDups :=
    List.filter_eq_self.2 fun token hmem => isIdentifier_of_mem_comparatorTokens hmem
  rw [header_comparators, header_assertions, writtenTokens, List.filter_append, hcomparators,
    List.map_append, List.filter_map, List.map_map, List.map_map]
  simp only [Function.comp_def, name_blockOf, List.map_id']

end Run

namespace Header

lemma literal_injective : Function.Injective Diagnostic.literal := by
  intro s t h
  simpa [← String.toList_inj] using quote_injective h

section

variable {settings : Settings} (hsettings : settings.IsSingleLine) (lines : List String)

include hsettings

/-- The directives of one kind in a document. -/
lemma filter_linesOf_generate {word : String} (hword : isDirective word = true) :
    let header := ((Run.start settings).feedLines lines).resolve.header
    (linesOf (generate settings lines)).filter (opensWith word) =
      (("#ifndef " ++ settings.guard) :: ("#define " ++ settings.guard) ::
        header.includes.map ("#include <" ++ · ++ ">")).filter (opensWith word) ++
      ((Run.writtenTokens (Run.candidates lines).eraseDups).map fun token =>
        (Name.decode token).directive).filter (opensWith word) ++
      [header.closing, ""].filter (opensWith word) := by
  intro header
  obtain ⟨front, blocks, hdocument, -, hfront, hblocks⟩ := exists_lines hsettings lines
  rw [hdocument, List.filter_append, List.filter_append, List.filter_append,
    filter_opensWith hword front, hfront, filter_opensWith hword blocks, hblocks,
    ← List.filter_append, List.singleton_append]

lemma filter_define_linesOf :
    (linesOf (generate settings lines)).filter (opensWith "#define ") =
      ("#define " ++ settings.guard) ::
        ((Run.writtenTokens (Run.candidates lines).eraseDups).filter fun token =>
          Identifier.isIdentifier token.toList).map fun token => (Name.decode token).directive := by
  rw [filter_linesOf_generate hsettings lines (by decide), Run.filter_definitions]
  simp [closing, opensWith, List.isPrefixOf, List.filter_map, Function.comp_def]

lemma filter_error_linesOf :
    (linesOf (generate settings lines)).filter (opensWith "#error ") =
      ((Run.candidates lines).eraseDups.filter fun token =>
        Name.decode token = .unrecognized token ∧ ¬ Identifier.isIdentifier token.toList).map
          ("#error " ++ Diagnostic.literal ·) := by
  rw [filter_linesOf_generate hsettings lines (by decide), Run.filter_errors,
    Run.filter_not_isIdentifier_writtenTokens]
  simp [closing, opensWith, List.isPrefixOf, List.filter_map, Function.comp_def]

/-- The include lines stand before the blocks. -/
lemma exists_front_of_includes :
    let header := ((Run.start settings).feedLines lines).resolve.header
    ∃ front, linesOf (generate settings lines) =
        front ++ linesOf (header.sections ++ line header.closing) ∧
      (linesOf (header.sections ++ line header.closing)).filter (opensWith "#include ") = [] := by
  intro header
  obtain ⟨front, blocks, hdocument, hsections, -, hblocks⟩ := exists_lines hsettings lines
  refine ⟨["#ifndef " ++ settings.guard] ++ front, ?_, ?_⟩
  · rw [hsections, hdocument, List.append_assoc _ blocks]
  · rw [hsections, List.filter_append, filter_opensWith (by decide) blocks, hblocks,
      Run.filter_others _ (by decide)]
    simp [closing, opensWith, List.isPrefixOf]

/-- Between the first and the last line, no condition is opened or closed. -/
lemma exists_middle :
    let header := ((Run.start settings).feedLines lines).resolve.header
    ∃ middle, linesOf (generate settings lines) =
        ("#ifndef " ++ settings.guard) :: middle ++ [header.closing, ""] ∧
      ∀ word ∈ ["#ifndef", "#endif"], middle.filter (opensWith word) = [] := by
  intro header
  obtain ⟨front, blocks, hdocument, -, hfront, hblocks⟩ := exists_lines hsettings lines
  refine ⟨front ++ blocks, hdocument, fun word hword => ?_⟩
  have hdirective : isDirective word = true := by
    revert word
    decide
  have hguard : (("#define " ++ settings.guard) ::
      header.includes.map ("#include <" ++ · ++ ">")).filter (opensWith word) = [] := by
    simp only [List.mem_cons, List.not_mem_nil, or_false] at hword
    rcases hword with rfl | rfl <;>
      simp [opensWith, List.isPrefixOf, List.filter_map, Function.comp_def]
  rw [List.filter_append, filter_opensWith hdirective front, hfront, hguard,
    filter_opensWith hdirective blocks, hblocks, Run.filter_others _ (List.mem_cons_of_mem _ hword)]
  rfl

end

/-- **The directives of a header.**  If no text of the settings has a line feed, then in the
document for any lines

* the definitions are that of the guard and, in the order of the blocks, those of the macros that
  the blocks are named after: all comparators and those others whose names are identifiers; no two
  have one name;
* the errors are those for the distinct delivered names that spell nothing and are no identifiers,
  in their order, and no two are the same;
* the include lines stand before the first block;
* the guard is tested on the first line and closed on the last one, and no other line opens or
  closes a condition. -/
theorem directives_generate (settings : Settings) (lines : List String)
    (hsettings : settings.IsSingleLine) :
    let tokens := (Run.candidates lines).eraseDups
    let header := ((Run.start settings).feedLines lines).resolve.header
    let document := linesOf (generate settings lines)
    let macros := header.comparators ++
      header.assertions.filter fun block => Identifier.isIdentifier block.name.toList
    let errors := tokens.filter fun token =>
      Name.decode token = .unrecognized token ∧ ¬ Identifier.isIdentifier token.toList
    let closing := "#endif /* " ++ settings.guard ++ " */"
    (∃ defines, document.filter (opensWith "#define ") = ("#define " ++ settings.guard) :: defines ∧
      defines.map definedName? = macros.map (some ·.name)) ∧
    (macros.map (·.name)).Nodup ∧
    (∀ block ∈ macros, Identifier.isIdentifier block.name.toList = true) ∧
    document.filter (opensWith "#error ") = errors.map ("#error " ++ Diagnostic.literal ·) ∧
    (document.filter (opensWith "#error ")).Nodup ∧
    (∃ front, document = front ++ linesOf (blockSection header.comparators ++
        blockSection header.assertions ++ line closing) ∧
      (linesOf (blockSection header.comparators ++ blockSection header.assertions ++
        line closing)).filter (opensWith "#include ") = []) ∧
    ∃ middle, document = ("#ifndef " ++ settings.guard) :: middle ++ [closing, ""] ∧
      ∀ word ∈ ["#ifndef", "#endif"], middle.filter (opensWith word) = [] := by
  intro tokens header document macros errors closing
  have htokens : tokens.Nodup := Ledger.nodup_eraseDups _
  have hnames : macros.map (·.name) = (Run.writtenTokens tokens).filter fun token =>
      Identifier.isIdentifier token.toList := Run.names_macros settings lines
  have herrors : document.filter (opensWith "#error ") =
      errors.map ("#error " ++ Diagnostic.literal ·) := filter_error_linesOf hsettings lines
  have hclosing : header.closing = closing := by
    rw [Header.closing, guard_resolve]
  refine ⟨⟨_, filter_define_linesOf hsettings lines, ?_⟩, ?_, ?_, herrors, ?_, ?_, ?_⟩
  · have hsome : macros.map (some ·.name) = (macros.map (·.name)).map some := by
      rw [List.map_map]
      rfl
    rw [hsome, hnames, List.map_map]
    refine List.map_congr_left fun token hmem => ?_
    exact definedName?_directive (List.mem_filter.1 hmem).2
  · rw [hnames]
    exact (Run.nodup_writtenTokens htokens).filter _
  · intro block hmem
    have hname : block.name ∈ macros.map (·.name) := List.mem_map_of_mem hmem
    rw [hnames] at hname
    exact (List.mem_filter.1 hname).2
  · rw [herrors]
    refine List.Nodup.map (fun s t h => literal_injective ?_) (htokens.filter _)
    simpa [← String.toList_inj] using h
  · rw [← hclosing]
    exact exists_front_of_includes hsettings lines
  · rw [← hclosing]
    exact exists_middle hsettings lines

/-- A name with a line feed closes no guard: it is quoted in one error. -/
theorem directives_generate_quoted :
    let document := linesOf (generate {} ["Assert_NULL", "Assert\n#endif"])
    Settings.IsSingleLine {} ∧
      document.filter (opensWith "#error ") =
        ["#error \"unrecognized assertion name: Assert\\n#endif\""] ∧
      ∃ middle, document =
          "#ifndef ASSERTIONS_H" :: middle ++ ["#endif /* ASSERTIONS_H */", ""] ∧
        ∀ word ∈ ["#ifndef", "#endif"], middle.filter (opensWith word) = [] := by
  intro document
  have hsettings : Settings.IsSingleLine {} := by
    constructor <;> decide
  obtain ⟨-, -, -, herrors, -, -, hmiddle⟩ :=
    directives_generate {} ["Assert_NULL", "Assert\n#endif"] hsettings
  exact ⟨hsettings, herrors.trans (by decide), hmiddle⟩

end Header

end AssertionHeader
