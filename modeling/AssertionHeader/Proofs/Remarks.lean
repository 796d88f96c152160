import AssertionHeader.Proofs.Deliveries
import AssertionHeader.Proofs.Recognition

/-!
# Lines that are no names

Between the names, a source may have blank lines and comments, and lines that are not even UTF-8
(`Source.IsRemark`).  None of them spells a macro.  But the filter for lines looks at the ends of a
line only, so it takes a comment that ends in `_compare` for a name, and a name with an ill-formed
byte in it, too.

`Run.readSource_remark` says when such a line leaves a run as it is.  If it does not, it brings an
error into the header: the run is the one that is told of an error (`Run.noteError`).
-/

namespace AssertionHeader

/-! ## What trimming and decoding keep -/

namespace Text

/-- Only blanks are trimmed. -/
lemma mem_trim {text : List Char} {c : Char} (hc : isBlank c = false) (h : c ∈ text) :
    c ∈ trim text := by
  have hkeep : ∀ list : List Char, c ∈ list → c ∈ list.dropWhile isBlank := by
    intro list hmem
    rw [← List.takeWhile_append_dropWhile (p := isBlank) (l := list), List.mem_append] at hmem
    refine hmem.resolve_left fun hstart => ?_
    rw [List.mem_takeWhile_imp hstart] at hc
    cases hc
  rw [trim, trimEnd, List.mem_reverse]
  exact hkeep _ (List.mem_reverse.2 (hkeep text h))

lemma trim_of_all_isBlank {text : List Char} (h : ∀ c ∈ text, isBlank c = true) : trim text = [] := by
  rw [trim, List.dropWhile_eq_nil_iff.2 h]
  rfl

lemma none_mem_of_mapM_eq_none {parts : List (Option Char)} (h : parts.mapM id = none) :
    none ∈ parts := by
  induction parts with
  | nil => cases h
  | cons part rest ih =>
    cases part with
    | none => exact List.mem_cons_self
    | some c =>
      cases hrest : rest.mapM id with
      | none => exact List.mem_cons_of_mem _ (ih hrest)
      | some others => simp [List.mapM_cons, hrest] at h

/-- Each ill-formed part is replaced. -/
lemma replacement_mem_decodeLossy {bytes : List UInt8} (h : Utf8.decode? bytes = none) :
    Utf8.replacement ∈ Utf8.decodeLossy bytes :=
  List.mem_map.2 ⟨none, none_mem_of_mapM_eq_none h, rfl⟩

end Text

/-! ## Lines that are no names -/

namespace Source

/-- The line is not meant to be a name. -/
inductive IsRemark (line : List UInt8) : Prop where
  | blank (h : ∀ c ∈ Text.Utf8.decodeLossy line, Text.isBlank c = true)
  /-- The first character that is not blank opens a comment. -/
  | comment (h : (Text.trim (Text.Utf8.decodeLossy line)).head? = some '#')
  /-- The bytes are not UTF-8. -/
  | garbled (h : Text.Utf8.decode? line = none)

lemma lineText_of_blank {line : List UInt8}
    (h : ∀ c ∈ Text.Utf8.decodeLossy line, Text.isBlank c = true) : lineText line = "" := by
  rw [lineText, Text.trim_of_all_isBlank h]

/-- What is no name is no identifier either. -/
lemma IsRemark.not_isIdentifier {line : List UInt8} (h : IsRemark line) :
    Identifier.isIdentifier (lineText line).toList = false := by
  cases h with
  | blank h =>
    rw [lineText_of_blank h]
    rfl
  | comment h =>
    rw [lineText, String.toList_ofList]
    cases htrim : Text.trim (Text.Utf8.decodeLossy line) with
    | nil => rfl
    | cons c rest =>
      have hc : c = '#' := by simpa [htrim] using h
      subst hc
      rfl
  | garbled h =>
    have hmem : Text.Utf8.replacement ∈ (lineText line).toList := by
      rw [lineText, String.toList_ofList]
      exact Text.mem_trim (by decide) (Text.replacement_mem_decodeLossy h)
    rw [Bool.eq_false_iff]
    intro hidentifier
    exact Text.lacks_of_isIdentifier (by decide) hidentifier hmem

lemma trim_lineText (line : List UInt8) :
    Text.trim (lineText line).toList = (lineText line).toList := by
  rw [lineText, String.toList_ofList, Text.trim_trim]

end Source

/-! ## What they do to a run -/

namespace Name

/-- The outward form of a name. -/
lemma isCandidate_iff {token : List Char} :
    isCandidate token = true ↔
      "Assert".toList <+: token ∨ "Fail".toList <+: token ∨ "_compare".toList <:+ token := by
  rw [isCandidate, Bool.or_eq_true, Bool.or_eq_true, List.isPrefixOf_iff_prefix,
    List.isPrefixOf_iff_prefix, List.isSuffixOf_iff_suffix, or_assoc, Comparator.suffix]

end Name

namespace Run

/-- The run that is told of an error: the token is taken for a name, and its block is an error where
it stands. -/
def noteError (run : Run) (token : String) : Run :=
  { run with
    ledger := run.ledger.define token
    assertions := run.assertions ++
      [⟨token, "", Text.line ("#error " ++ Diagnostic.literal token)⟩] }

lemma noteError_ne (run : Run) (token : String) : run.noteError token ≠ run := by
  intro h
  have hlength := congrArg (·.assertions.length) h
  simp [noteError] at hlength

/-- Feeding what is no identifier notes an error, the first time. -/
lemma feed_of_not_isIdentifier (run : Run) {token : String}
    (h : Identifier.isIdentifier token.toList = false) :
    (run.feed token).2 = if run.ledger.isDefined token then run else run.noteError token := by
  have hwrite : run.write (.unrecognized token) = run.noteError token := by
    simp [write, noteError, Name.events, Name.block, Diagnostic.events, Diagnostic.block, h,
      Ledger.recordAll, Ledger.record]
  have htext : (Name.unrecognized token).text = token := rfl
  rw [feed, Name.decode_of_not_isIdentifier h, htext, hwrite]
  by_cases hdefined : run.ledger.isDefined token = true
  · rw [if_pos hdefined, if_pos hdefined]
  · rw [if_neg hdefined, if_neg hdefined]

/-- A line that is no name is taken for one, or leaves the run as it is. -/
lemma feedLine_remark (run : Run) {line : List UInt8} (h : Source.IsRemark line) :
    run.feedLine (Source.lineText line) =
      if Name.isCandidate (Source.lineText line).toList &&
          !run.ledger.isDefined (Source.lineText line) then
        run.noteError (Source.lineText line)
      else run := by
  have htrim := Source.trim_lineText line
  by_cases hform : Name.isCandidate (Source.lineText line).toList = true
  · rw [run.feedLine_of_trim_eq htrim hform, run.feed_of_not_isIdentifier h.not_isIdentifier, hform]
    cases run.ledger.isDefined (Source.lineText line) <;> rfl
  · rw [feedLine, htrim, if_neg hform, if_neg (by simp [hform])]

lemma feedLine_remark_eq_self_iff (run : Run) {line : List UInt8} (h : Source.IsRemark line) :
    run.feedLine (Source.lineText line) = run ↔
      Name.isCandidate (Source.lineText line).toList = false ∨
        run.ledger.isDefined (Source.lineText line) = true := by
  rw [run.feedLine_remark h]
  cases Name.isCandidate (Source.lineText line).toList <;>
    cases run.ledger.isDefined (Source.lineText line) <;> simp [run.noteError_ne]

/-- **A line that is no name leaves a run as it is, unless it looks like one.**  If the next line of
a source is blank, a comment or not UTF-8, then what is left of the source is read by the same run
as before, so that the header is the same as without the line; or an error was noted.  The run is
the same exactly if the line, without the blanks around it, neither begins with `Assert` or `Fail`
nor ends in `_compare`, or if it was noted before.  A blank line always leaves the run as it is, and
a comment does unless it ends in `_compare`. -/
theorem readSource_remark (run : Run) (name : String) (deliveries rest : List Delivery)
    (line : List UInt8) (hread : Source.readLine? [] deliveries = some (.ok line, rest))
    (h : Source.IsRemark line) :
    let token := Source.lineText line
    let after := run.feedLine token
    run.readSource (Source.lines name deliveries) = after.readSource (Source.lines name rest) ∧
    (after = run → (run.readSource (Source.lines name deliveries)).2.finish =
      (run.readSource (Source.lines name rest)).2.finish) ∧
    (after = run ∨ after = run.noteError token ∧ run.noteError token ≠ run) ∧
    (after = run ↔ ¬ ("Assert".toList <+: token.toList ∨ "Fail".toList <+: token.toList ∨
      "_compare".toList <:+ token.toList) ∨ run.ledger.isDefined token = true) ∧
    ((∀ c ∈ Text.Utf8.decodeLossy line, Text.isBlank c = true) → after = run) ∧
    (token.toList.head? = some '#' →
      (after = run ↔ ¬ "_compare".toList <:+ token.toList ∨
        run.ledger.isDefined token = true)) := by
  intro token after
  have hlines : run.readSource (Source.lines name deliveries) =
      after.readSource (Source.lines name rest) := by
    have hresult : Source.resultOf name (.ok line) = .ok token := rfl
    rw [Source.lines_of_some hread, hresult, readSource]
  have hcases : after = run ∨ after = run.noteError token ∧ run.noteError token ≠ run := by
    have hafter := run.feedLine_remark h
    split at hafter
    · exact .inr ⟨hafter, run.noteError_ne token⟩
    · exact .inl hafter
  have hiff : after = run ↔ ¬ ("Assert".toList <+: token.toList ∨ "Fail".toList <+: token.toList ∨
      "_compare".toList <:+ token.toList) ∨ run.ledger.isDefined token = true := by
    rw [← Name.isCandidate_iff, Bool.not_eq_true]
    exact run.feedLine_remark_eq_self_iff h
  refine ⟨hlines, fun hsame => ?_, hcases, hiff, fun hblank => ?_, fun hcomment => ?_⟩
  · rw [hlines, hsame]
  · have htoken : token = "" := Source.lineText_of_blank hblank
    rw [hiff, htoken]
    exact .inl (by decide)
  · obtain ⟨text, htext⟩ : ∃ text, token.toList = '#' :: text := List.head?_eq_some_iff.1 hcomment
    have hopening : ¬ "Assert".toList <+: token.toList ∧ ¬ "Fail".toList <+: token.toList := by
      rw [htext]
      simp
    simp only [hiff, hopening, false_or]

/-- A comment may mention a name before anything else. -/
theorem readSource_remark_comment :
    let line := "# Foo_compare is Bar\n".toList.map fun c => UInt8.ofNat c.toNat
    Source.readLine? [] [.bytes line] = some (.ok line, [.bytes []]) ∧ Source.IsRemark line ∧
      (start {}).feedLine (Source.lineText line) = start {} := by
  intro line
  have hread : Source.readLine? [] [.bytes line] = some (.ok line, [.bytes []]) := by decide
  have hremark : Source.IsRemark line := .comment (by decide)
  obtain ⟨-, -, -, hiff, -⟩ := (start {}).readSource_remark "names" _ _ line hread hremark
  exact ⟨hread, hremark, hiff.2 (.inl (by decide))⟩

/-- A comment that ends in `_compare` and a name with an ill-formed byte in it are noted as
errors. -/
theorem not_readSource_remark_unchanged :
    let comment := "# see Foo_compare\n".toList.map fun c => UInt8.ofNat c.toNat
    let garbled := ("Assert".toList.map fun c => UInt8.ofNat c.toNat) ++ [0xE9, Source.lineFeed]
    Source.IsRemark comment ∧ Source.IsRemark garbled ∧
      (start {}).readSource (Source.lines "names" [.bytes comment]) ≠ (none, start {}) ∧
      (start {}).readSource (Source.lines "names" [.bytes garbled]) ≠ (none, start {}) := by
  intro comment garbled
  have hcomment : Source.lines "names" [.bytes comment] = [.ok "# see Foo_compare"] :=
    Source.lines_bytes "names" [comment]
  have hgarbled : Source.lines "names" [.bytes garbled] = [.ok "Assert\ufffd"] :=
    Source.lines_bytes "names" [garbled]
  rw [hcomment, hgarbled]
  exact ⟨.comment (by decide), .garbled (by decide), by decide, by decide⟩

end Run

end AssertionHeader
