import AssertionHeader.Proofs.Includes

/-!
# Where the names of comparators stand

The name of a comparator may be delivered before the assertions that call it, between them or behind
them.  `Header.generate_shuffled` says that this makes no difference to the document, except that
the include lines may change places.  They do so only if there are two of them, and then only if a
comparator that was delivered by name needs one and an assertion on a null pointer needs the other.

For the comparators are written apart from all other macros, and what is left to be written or to be
noted depends on which names were delivered and not on when.
-/

namespace AssertionHeader

open Text

/-! ## Two orders of the same names -/

namespace Run

/-- Two lists have the same comparators in the same order, and the same other tokens in the same
order.  They may differ in where the comparators stand among the others. -/
structure Shuffled (tokens others : List String) : Prop where
  comparators : tokens.filter spellsComparator = others.filter spellsComparator
  rest : tokens.filter (!spellsComparator ·) = others.filter (!spellsComparator ·)

namespace Shuffled

variable {tokens others : List String}

lemma mem_iff (h : Shuffled tokens others) {token : String} : token ∈ tokens ↔ token ∈ others := by
  have hfilter : ∀ list : List String, token ∈ list ↔
      token ∈ list.filter spellsComparator ∨ token ∈ list.filter (!spellsComparator ·) := by
    intro list
    cases hspells : spellsComparator token <;> simp [hspells]
  rw [hfilter tokens, hfilter others, h.comparators, h.rest]

lemma eraseDups (h : Shuffled tokens others) : Shuffled tokens.eraseDups others.eraseDups where
  comparators := by
    rw [← Ledger.eraseDups_filter, ← Ledger.eraseDups_filter, h.comparators]
  rest := by
    rw [← Ledger.eraseDups_filter, ← Ledger.eraseDups_filter, h.rest]

end Shuffled

/-! ## What depends on the other tokens -/

lemma orderedType?_of_spellsComparator {token : String} (h : spellsComparator token = true) :
    (Name.decode token).orderedType? = none := by
  obtain ⟨operandType, hdecode, -⟩ := Name.exists_ofType_of_isComparator h
  rw [hdecode]
  rfl

/-- What comparators contribute nothing to is collected from the other tokens alone. -/
lemma filterMap_rest {f : String → Option String} {tokens : List String}
    (h : ∀ token ∈ tokens, spellsComparator token = true → f token = none) :
    (tokens.filter (!spellsComparator ·)).filterMap f = tokens.filterMap f := by
  rw [List.filterMap_filter]
  refine List.filterMap_congr fun token hmem => ?_
  cases hspells : spellsComparator token with
  | true => rw [h token hmem hspells]; rfl
  | false => rfl

lemma orderedTypes_rest (tokens : List String) :
    orderedTypes (tokens.filter (!spellsComparator ·)) = orderedTypes tokens := by
  rw [orderedTypes, filterMap_rest fun _ _ h => orderedType?_of_spellsComparator h, orderedTypes]

lemma ordersOf_rest (operandType : String) (tokens : List String) :
    ordersOf operandType (tokens.filter (!spellsComparator ·)) = ordersOf operandType tokens := by
  rw [ordersOf, List.filter_filter, ordersOf]
  refine List.filter_congr fun token _ => ?_
  cases hspells : spellsComparator token with
  | true => simp [orderedType?_of_spellsComparator hspells]
  | false => simp

namespace Shuffled

variable {tokens others : List String} (h : Shuffled tokens others)

include h

lemma orderedTypes_eq : orderedTypes tokens = orderedTypes others := by
  rw [← orderedTypes_rest tokens, h.rest, orderedTypes_rest]

lemma ordersOf_eq (operandType : String) :
    ordersOf operandType tokens = ordersOf operandType others := by
  rw [← ordersOf_rest operandType tokens, h.rest, ordersOf_rest]

lemma unaskedTypes_eq : unaskedTypes tokens = unaskedTypes others := by
  rw [unaskedTypes, unaskedTypes, h.orderedTypes_eq]
  simp only [h.mem_iff]

lemma comparatorTokens_eq : comparatorTokens tokens = comparatorTokens others := by
  rw [comparatorTokens, comparatorTokens, h.comparators, h.unaskedTypes_eq]

/-- If no delivered comparator calls a library function, then the headers are needed in one
order. -/
lemma usedHeaders_eq (settings : Settings)
    (harithmetic : ∀ token ∈ tokens, spellsComparator token = true → token = "Number_compare") :
    ((macroOrder tokens).filterMap fun token => (Name.decode token).usedHeader? settings) =
      (macroOrder others).filterMap fun token => (Name.decode token).usedHeader? settings := by
  have hnumber : (Name.decode "Number_compare").usedHeader? settings = none := by
    have hkinds : (Name.decode "Number_compare").isNullCheck = false ∧
        (Name.decode "Number_compare").callsLibrary = false := by
      decide
    simp [Name.usedHeader?, hkinds]
  have hrest : ∀ list : List String, (∀ token ∈ list, token ∈ tokens) →
      ((list.filter (!spellsComparator ·)).filterMap fun token =>
        (Name.decode token).usedHeader? settings) =
          list.filterMap fun token => (Name.decode token).usedHeader? settings := by
    intro list hlist
    refine filterMap_rest fun token hmem hspells => ?_
    rw [harithmetic token (hlist token hmem) hspells]
    exact hnumber
  rw [macroOrder, macroOrder, List.filterMap_append, List.filterMap_append, h.unaskedTypes_eq,
    ← hrest tokens fun _ hmem => hmem, h.rest, hrest others fun _ hmem => h.mem_iff.2 hmem]

end Shuffled

end Run

/-! ## Two documents -/

namespace Header

section

variable (settings : Settings) {lines others : List String}
  (h : Run.Shuffled (Run.candidates lines) (Run.candidates others))

include h

/-- All but the include lines stands still. -/
lemma eq_of_shuffled :
    let header := ((Run.start settings).feedLines lines).resolve.header
    ((Run.start settings).feedLines others).resolve.header =
      { header with
        includes := ((Run.start settings).feedLines others).resolve.header.includes } := by
  intro header
  have hguard := (guard_resolve settings others).trans (guard_resolve settings lines).symm
  have hmissing := missing_resolve settings others
  have hcomparators := Run.header_comparators settings others
  have hassertions := Run.header_assertions settings others
  simp only [← h.eraseDups.orderedTypes_eq, ← h.eraseDups.ordersOf_eq, ← h.eraseDups.mem_iff,
    ← h.eraseDups.comparatorTokens_eq, ← h.eraseDups.rest] at hmissing hcomparators hassertions
  rw [← missing_resolve settings lines] at hmissing
  rw [← Run.header_comparators settings lines] at hcomparators
  rw [← Run.header_assertions settings lines] at hassertions
  rw [Header.mk.injEq]
  exact ⟨hguard, hmissing, rfl, hcomparators, hassertions⟩

lemma includes_perm_of_shuffled :
    (((Run.start settings).feedLines lines).resolve.header.includes).Perm
      ((Run.start settings).feedLines others).resolve.header.includes := by
  rw [List.perm_ext_iff_of_nodup (nodup_includes settings lines) (nodup_includes settings others)]
  intro name
  rw [mem_includes_iff, mem_includes_iff, h.eraseDups.comparatorTokens_eq]
  simp only [h.mem_iff]

variable {settings}

/-- Include lines of which only one kind can be needed stand still. -/
lemma includes_eq_of_shuffled
    (hsame : settings.nullHeader = settings.stringHeader ∨
      ∀ token ∈ Run.candidates lines, (Name.decode token).isNullCheck = false) :
    ((Run.start settings).feedLines lines).resolve.header.includes =
      ((Run.start settings).feedLines others).resolve.header.includes := by
  have hname : ∀ name ∈ ((Run.start settings).feedLines lines).resolve.header.includes,
      name = settings.stringHeader := by
    intro name hmem
    rcases (mem_includes_iff settings lines).1 hmem with
      ⟨hnull, token, htoken, hcheck⟩ | ⟨hstring, -⟩
    · rcases hsame with hsame | hnone
      · exact hnull.trans hsame
      · rw [hnone token htoken] at hcheck
        cases hcheck
    · exact hstring
  have hreplicate := List.eq_replicate_of_mem hname
  have hperm := (includes_perm_of_shuffled settings h).symm
  rw [hreplicate] at hperm
  exact hreplicate.trans (List.perm_replicate.1 hperm).symm

lemma includes_eq_of_arithmetic
    (harithmetic : ∀ token ∈ Run.candidates lines,
      Run.spellsComparator token = true → token = "Number_compare") :
    ((Run.start settings).feedLines lines).resolve.header.includes =
      ((Run.start settings).feedLines others).resolve.header.includes := by
  have hused := h.eraseDups.usedHeaders_eq settings fun token hmem =>
    harithmetic token (List.mem_eraseDups.1 hmem)
  rw [Run.includes_resolve, Run.includes_resolve, hused]

end

/-- What stands around the include lines does not depend on them. -/
lemma exists_surroundings (header : Header) : ∃ front back, ∀ includes,
    ({ header with includes }).render =
      front ++ unlines (includes.map ("#include <" ++ · ++ ">") ++ [""]) ++ back := by
  refine ⟨unlines ["#ifndef " ++ header.guard, "#define " ++ header.guard, ""] ++
      adviceSection header.missing,
    blockSection header.comparators ++ blockSection header.assertions ++
      line ("#endif /* " ++ header.guard ++ " */"), fun includes => ?_⟩
  rw [render]
  simp only [includeSection, String.append_assoc]

/-- **The place of a comparator's name does not matter.**  If two lists of lines deliver the same
names of comparators in the same order and the same other names in the same order, then their
documents differ at most in the order of the include lines.

They do not differ at all if both headers have one name, or if no name spells an assertion on a null
pointer, or if no comparator but that of numbers is delivered. -/
theorem generate_shuffled (settings : Settings) (lines others : List String)
    (h : Run.Shuffled (Run.candidates lines) (Run.candidates others)) :
    let header := ((Run.start settings).feedLines lines).resolve.header
    let other := ((Run.start settings).feedLines others).resolve.header
    (other = { header with includes := other.includes } ∧
      header.includes.Perm other.includes ∧
      ∃ front back,
        generate settings lines =
          front ++ unlines (header.includes.map ("#include <" ++ · ++ ">") ++ [""]) ++ back ∧
        generate settings others =
          front ++ unlines (other.includes.map ("#include <" ++ · ++ ">") ++ [""]) ++ back) ∧
    (settings.nullHeader = settings.stringHeader ∨
        (∀ token ∈ Run.candidates lines, (Name.decode token).isNullCheck = false) ∨
        (∀ token ∈ Run.candidates lines,
          Run.spellsComparator token = true → token = "Number_compare") →
      generate settings lines = generate settings others) := by
  intro header other
  have hother : other = { header with includes := other.includes } := eq_of_shuffled settings h
  obtain ⟨front, back, hrender⟩ := exists_surroundings header
  have hdocument : generate settings others = ({ header with includes := other.includes }).render :=
    congrArg render hother
  refine ⟨⟨hother, includes_perm_of_shuffled settings h, front, back, hrender header.includes,
    hdocument.trans (hrender other.includes)⟩, fun hsame => ?_⟩
  have hincludes : header.includes = other.includes := by
    rcases hsame with hname | hnone | harithmetic
    · exact includes_eq_of_shuffled h (.inl hname)
    · exact includes_eq_of_shuffled h (.inr hnone)
    · exact includes_eq_of_arithmetic h harithmetic
  rw [hdocument, ← hincludes]
  rfl

/-- The comparator of a type that is neither a number nor a string changes places with an assertion
on a null pointer, and so do the headers that they need; that of numbers needs none. -/
theorem generate_shuffled_null_check :
    (∃ front back,
      generate {} ["Assert_NULL", "Foo_compare"] =
        front ++ unlines ["#include <stddef.h>", "#include <string.h>", ""] ++ back ∧
      generate {} ["Foo_compare", "Assert_NULL"] =
        front ++ unlines ["#include <string.h>", "#include <stddef.h>", ""] ++ back) ∧
    generate {} ["Assert_NULL", "Number_compare"] =
      generate {} ["Number_compare", "Assert_NULL"] := by
  have hfirst : ((Run.start {}).feedLines ["Assert_NULL", "Foo_compare"]).resolve.header.includes =
      ["stddef.h", "string.h"] := by
    rw [Run.includes_resolve]
    decide
  have hsecond : ((Run.start {}).feedLines ["Foo_compare", "Assert_NULL"]).resolve.header.includes =
      ["string.h", "stddef.h"] := by
    rw [Run.includes_resolve]
    decide
  obtain ⟨⟨-, -, front, back, hdocument, hother⟩, -⟩ :=
    generate_shuffled {} ["Assert_NULL", "Foo_compare"] ["Foo_compare", "Assert_NULL"]
      ⟨by decide, by decide⟩
  obtain ⟨-, hsame⟩ :=
    generate_shuffled {} ["Assert_NULL", "Number_compare"] ["Number_compare", "Assert_NULL"]
      ⟨by decide, by decide⟩
  rw [hfirst] at hdocument
  rw [hsecond] at hother
  exact ⟨⟨front, back, hdocument, hother⟩, hsame (.inr (.inr (by decide)))⟩

end Header

end AssertionHeader
