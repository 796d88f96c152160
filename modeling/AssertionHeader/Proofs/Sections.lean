import AssertionHeader.Proofs.Requests
import Mathlib.Data.List.DropRight

/-!
# The sections of a header

A header has a section of comparators and one of assertions.  `Run.sections_eq` says what stands in
them: the blocks of the names that were delivered, each once and in the order in which they came,
and behind the comparators those that were requested and need not be asked for.  A block does not
depend on the company it is in; a run that reads the name alone writes the same one.

So it does not matter how often a name is delivered, or among which other lines: the header of any
lines is the header of the distinct names in them.
-/

namespace AssertionHeader

/-! ## Trimmed text -/

namespace Text

lemma trimEnd_eq_rdropWhile (text : List Char) : trimEnd text = text.rdropWhile isBlank := rfl

/-- Trimmed text has no blanks at its ends. -/
lemma trim_trim (text : List Char) : trim (trim text) = trim text := by
  have hstart : (trim text).dropWhile isBlank = trim text := by
    cases htrim : trim text with
    | nil => rfl
    | cons c rest =>
      have hopens : c :: rest <+: text.dropWhile isBlank := by
        rw [← htrim, trim, trimEnd_eq_rdropWhile]
        exact List.rdropWhile_prefix _ _
      obtain ⟨tail, htail⟩ := hopens
      have hhead : (text.dropWhile isBlank).head? = some c := by simp [← htail]
      have hblank : isBlank c = false := by
        simpa [hhead] using List.head?_dropWhile_not isBlank text
      simp [hblank]
  rw [trim, hstart, trim, trimEnd_eq_rdropWhile, trimEnd_eq_rdropWhile,
    List.rdropWhile_idempotent]

/-- Text that neither starts nor ends with a blank is trimmed already. -/
lemma trim_eq_self {text : List Char} (hhead : ∀ c, text.head? = some c → isBlank c = false)
    (hlast : ∀ c, text.getLast? = some c → isBlank c = false) : trim text = text := by
  have hstart : text.dropWhile isBlank = text := by
    cases text with
    | nil => rfl
    | cons c rest => simp [hhead c rfl]
  rw [trim, hstart, trimEnd_eq_rdropWhile, List.rdropWhile_eq_self_iff]
  intro hne
  simp [hlast _ (List.getLast?_eq_some_getLast hne)]

end Text

namespace Run

/-! ## The names that lines deliver -/

/-- Names deliver themselves. -/
lemma candidates_of_subset {tokens lines : List String}
    (h : ∀ token ∈ tokens, token ∈ candidates lines) : candidates tokens = tokens := by
  have hname : ∀ token ∈ tokens,
      Text.trim token.toList = token.toList ∧ Name.isCandidate token.toList = true := by
    intro token hmem
    obtain ⟨text, htext, rfl⟩ := List.mem_map.1 (h token hmem)
    obtain ⟨hline, hcandidate⟩ := List.mem_filter.1 htext
    obtain ⟨line, -, rfl⟩ := List.mem_map.1 hline
    rw [String.toList_ofList, Text.trim_trim]
    exact ⟨rfl, hcandidate⟩
  have htrim : (tokens.map fun token => Text.trim token.toList) = tokens.map String.toList :=
    List.map_congr_left fun token hmem => (hname token hmem).1
  have hfilter : (tokens.map String.toList).filter Name.isCandidate = tokens.map String.toList := by
    rw [List.filter_eq_self]
    intro text htext
    obtain ⟨token, hmem, rfl⟩ := List.mem_map.1 htext
    exact (hname token hmem).2
  rw [candidates, htrim, hfilter, List.map_map]
  simp [Function.comp_def]

/-! ## Feeding names -/

/-- The run after names have been fed to it, whatever their form. -/
def feedAll (run : Run) (tokens : List String) : Run :=
  tokens.foldl (fun run token => (run.feed token).2) run

lemma feedAll_append (run : Run) (first second : List String) :
    run.feedAll (first ++ second) = (run.feedAll first).feedAll second := by
  rw [feedAll, feedAll, feedAll, List.foldl_append]

/-- Lines are fed the names that they deliver. -/
lemma feedLines_eq_feedAll (run : Run) (lines : List String) :
    run.feedLines lines = run.feedAll (candidates lines) := by
  induction lines generalizing run with
  | nil => rfl
  | cons line rest ih =>
    have hstep : run.feedLines (line :: rest) = (run.feedLine line).feedLines rest := rfl
    rw [hstep, ih, feedLine]
    by_cases h : Name.isCandidate (Text.trim line.toList) = true
    · simp [feedAll, candidates, h]
    · simp [feedAll, candidates, h]

lemma feedAll_start (settings : Settings) (tokens : List String) :
    (start settings).feedAll tokens = ofTokens settings.normalized tokens.eraseDups := by
  induction tokens using List.reverseRecOn with
  | nil => rfl
  | append_singleton tokens token ih =>
    have hstep : (start settings).feedAll (tokens ++ [token]) =
        (((start settings).feedAll tokens).feed token).2 :=
      feedAll_append _ tokens [token]
    rw [hstep, ih, feed_ofTokens, Ledger.eraseDups_concat]

/-- What becomes of a name: nothing, if it was fed before. -/
lemma feed_feedAll (settings : Settings) (fed : List String) (token : String) :
    ((start settings).feedAll fed).feed token =
      if token ∈ fed then (.duplicate, (start settings).feedAll fed)
      else (outcomeOf (Name.decode token), (start settings).feedAll (fed ++ [token])) := by
  have hdefined : ((start settings).feedAll fed).ledger.isDefined token = true ↔ token ∈ fed := by
    rw [feedAll_start, isDefined_ofTokens, List.mem_eraseDups]
  have hnext : (start settings).feedAll (fed ++ [token]) =
      (((start settings).feedAll fed).feed token).2 :=
    feedAll_append _ fed [token]
  by_cases h : token ∈ fed
  · rw [if_pos h, feed, Name.text_decode, if_pos (hdefined.2 h)]
  · rw [if_neg h, hnext, feed, Name.text_decode, if_neg (mt hdefined.1 h)]

lemma outcomeOf_ne_duplicate (name : Name) : outcomeOf name ≠ .duplicate := by
  cases name <;> exact Outcome.noConfusion

lemma outcome_eq_duplicate_iff (settings : Settings) (fed : List String) (token : String) :
    (((start settings).feedAll fed).feed token).1 = .duplicate ↔ token ∈ fed := by
  rw [feed_feedAll]
  by_cases h : token ∈ fed
  · rw [if_pos h]
    exact iff_of_true rfl h
  · rw [if_neg h]
    exact iff_of_false (outcomeOf_ne_duplicate _) h

/-! ## The blocks of a header -/

/-- Whether the token spells a comparator. -/
def spellsComparator (token : String) : Bool :=
  (Name.decode token).isComparator

/-- The block that is written for a token. -/
def blockOf (settings : Settings) (token : String) : Block :=
  (Name.decode token).block settings.normalized

lemma name_blockOf (settings : Settings) (token : String) :
    (blockOf settings token).name = token := by
  rw [blockOf, Name.name_block, Name.text_decode]

lemma ofTokens_comparators (settings : Settings) (tokens : List String) :
    (ofTokens settings.normalized tokens).comparators =
      (tokens.filter spellsComparator).map (blockOf settings) := by
  show ((tokens.map Name.decode).filter (·.isComparator)).map (·.block settings.normalized) = _
  rw [List.filter_map, List.map_map]
  rfl

lemma ofTokens_assertions (settings : Settings) (tokens : List String) :
    (ofTokens settings.normalized tokens).assertions =
      (tokens.filter (!spellsComparator ·)).map (blockOf settings) := by
  show ((tokens.map Name.decode).filter (!·.isComparator)).map (·.block settings.normalized) = _
  rw [List.filter_map, List.map_map]
  rfl

lemma decode_nameFor_of_mem_unaskedTypes {tokens : List String} {operandType : String}
    (h : operandType ∈ unaskedTypes tokens) :
    Name.decode (Comparator.nameFor operandType) = .comparator (.ofType operandType) := by
  have hdecode : ∀ operandType ∈ Comparator.builtinTypes,
      Name.decode (Comparator.nameFor operandType) = .comparator (.ofType operandType) := by
    decide
  exact hdecode operandType (mem_unaskedTypes.1 h).2.1

/-- The comparators that are written by themselves are those that their names would deliver. -/
lemma builtins_block (settings : Settings) (tokens : List String) :
    (builtins settings.normalized tokens).map (·.block settings.normalized) =
      ((unaskedTypes tokens).map Comparator.nameFor).map (blockOf settings) := by
  rw [builtins_eq, List.map_map, List.map_map]
  refine List.map_congr_left fun operandType hmem => ?_
  simp only [Function.comp_apply, blockOf, decode_nameFor_of_mem_unaskedTypes hmem]
  rfl

/-- The tokens whose blocks are the comparators of a header, in their order. -/
def comparatorTokens (tokens : List String) : List String :=
  tokens.filter spellsComparator ++ (unaskedTypes tokens).map Comparator.nameFor

section

variable (settings : Settings) (tokens lines : List String)

lemma comparators_resolve :
    (ofTokens settings.normalized tokens).resolve.header.comparators =
      (comparatorTokens tokens).map (blockOf settings) := by
  have hresolve := resolve_comparators settings.normalized tokens
  rw [ofTokens_comparators, builtins_block, ← List.map_append] at hresolve
  exact hresolve

lemma assertions_resolve :
    (ofTokens settings.normalized tokens).resolve.header.assertions =
      (tokens.filter (!spellsComparator ·)).map (blockOf settings) :=
  ofTokens_assertions settings tokens

lemma header_comparators :
    ((start settings).feedLines lines).resolve.header.comparators =
      (comparatorTokens (candidates lines).eraseDups).map (blockOf settings) := by
  rw [feedLines_start, comparators_resolve]

lemma header_assertions :
    ((start settings).feedLines lines).resolve.header.assertions =
      ((candidates lines).eraseDups.filter (!spellsComparator ·)).map (blockOf settings) := by
  rw [feedLines_start, assertions_resolve]

end

/-- A run that is fed one name writes its block and nothing else. -/
lemma feed_start (settings : Settings) (token : String) :
    ((start settings).feed token).2 = ofTokens settings.normalized [token] := by
  have hstart : start settings = ofTokens settings.normalized [] := rfl
  rw [hstart, feed_ofTokens]
  rfl

lemma sections_feed_start (settings : Settings) (token : String) :
    let run := ((start settings).feed token).2
    (run.comparators, run.assertions) =
      if spellsComparator token then ([blockOf settings token], [])
      else ([], [blockOf settings token]) := by
  intro run
  have hrun : run = ofTokens settings.normalized [token] := feed_start settings token
  rw [hrun, ofTokens_comparators, ofTokens_assertions]
  by_cases h : spellsComparator token = true <;> simp [h]

/-- Lines and the distinct names in them lead to the same run. -/
lemma feedLines_distinct (settings : Settings) (lines : List String) :
    (start settings).feedLines (candidates lines).eraseDups = (start settings).feedLines lines := by
  have hcandidates : candidates (candidates lines).eraseDups = (candidates lines).eraseDups :=
    candidates_of_subset fun token hmem => List.mem_eraseDups.1 hmem
  rw [feedLines_start, feedLines_start, hcandidates,
    Ledger.eraseDups_of_nodup (Ledger.nodup_eraseDups _)]

/-- **A run loses and repeats nothing.**  A header holds the blocks of the distinct names that the
lines deliver, comparators apart from all others, in the order in which the names came, and behind
the comparators those that were requested, were not delivered and need not be asked for.  A run
that is fed a single name writes its one block.

A name is a duplicate exactly if it was fed before, and then it changes nothing. -/
theorem sections_eq (settings : Settings) (lines : List String) :
    let tokens := (candidates lines).eraseDups
    let header := ((start settings).feedLines lines).resolve.header
    let unasked := (orderedTypes tokens).filter fun operandType =>
      operandType ∈ Comparator.builtinTypes ∧ Comparator.nameFor operandType ∉ tokens
    (∀ token, let run := ((start settings).feed token).2
      (run.comparators, run.assertions) =
        if spellsComparator token then ([blockOf settings token], [])
        else ([], [blockOf settings token])) ∧
    header.assertions = (tokens.filter (!spellsComparator ·)).map (blockOf settings) ∧
    header.comparators = (tokens.filter spellsComparator ++
      unasked.map Comparator.nameFor).map (blockOf settings) ∧
    (start settings).feedLines lines = (start settings).feedAll (candidates lines) ∧
    (∀ fed token,
      ((start settings).feedAll fed).feed token =
        (if token ∈ fed then (.duplicate, (start settings).feedAll fed)
        else (outcomeOf (Name.decode token), (start settings).feedAll (fed ++ [token]))) ∧
      ((((start settings).feedAll fed).feed token).1 = .duplicate ↔ token ∈ fed)) ∧
    generate settings lines = header.render ∧
    generate settings lines = generate settings tokens := by
  intro tokens header unasked
  refine ⟨sections_feed_start settings, header_assertions settings lines,
    header_comparators settings lines, feedLines_eq_feedAll _ _, fun fed token =>
    ⟨feed_feedAll settings fed token, outcome_eq_duplicate_iff settings fed token⟩, rfl, ?_⟩
  rw [generate, generate, feedLines_distinct]

end Run

end AssertionHeader
