import AssertionHeader.Proofs.Placement

/-!
# Comparators that need not be asked for

When the names of a run are read, it writes the comparators of numbers and strings that are still
needed.  `Run.finish_asked` says that this is a service to the user and no mechanism of its own: a
user who asks for these comparators by name, behind all other names, gets the same document, and
then nothing is left to be written at the end.

The two ways meet in one list of names, `Run.macroOrder`: the names that were read and, behind them,
the names of the comparators that nobody asked for.  A run is resolved by writing this list
(`Run.resolve_ofTokens_eq`), and fed to it by asking for what it needs (`Run.feedAll_asked`).
-/

namespace AssertionHeader

namespace Comparator

/-- Which names are those of comparators that need not be asked for. -/
lemma isSome_builtin?_iff {name : String} :
    (builtin? name).isSome = true ↔ name ∈ ["Number_compare", "String_compare"] := by
  have hnames : ["Number_compare", "String_compare"] = builtinTypes.map nameFor := by decide
  rw [Option.isSome_iff_exists, hnames, List.mem_map]
  constructor
  · rintro ⟨comparator, h⟩
    obtain ⟨operandType, hmem, rfl, -⟩ := builtin?_eq_some_iff.1 h
    exact ⟨operandType, hmem, rfl⟩
  · rintro ⟨operandType, hmem, rfl⟩
    exact ⟨_, builtin?_eq_some_iff.2 ⟨operandType, hmem, rfl, rfl⟩⟩

end Comparator

namespace Run

/-! ## What a run would have to be asked for -/

/-- The names of the comparators that are needed and need not be asked for, in the order of their
first needs. -/
def asked (run : Run) : List String :=
  (run.ledger.needs.map (·.name)).filter (· ∈ ["Number_compare", "String_compare"])

lemma asked_eq_names (run : Run) : run.asked = run.ledger.neededBuiltins.map (·.name) := by
  rw [asked, Ledger.names_neededBuiltins]
  refine List.filter_congr fun name _ => ?_
  rw [Bool.eq_iff_iff, decide_eq_true_iff, Comparator.isSome_builtin?_iff]

variable (settings : Settings) (tokens : List String)

lemma asked_ofTokens :
    (ofTokens settings tokens).asked = (unaskedTypes tokens).map Comparator.nameFor := by
  have hbuiltins : (ofTokens settings tokens).ledger.neededBuiltins =
      (unaskedTypes tokens).map Comparator.ofType :=
    builtins_eq settings tokens
  rw [asked_eq_names, hbuiltins, List.map_map]
  rfl

/-- Names that are asked for are read as they are. -/
lemma candidates_asked (run : Run) : candidates run.asked = run.asked := by
  have hbuiltins : candidates ["Number_compare", "String_compare"] =
      ["Number_compare", "String_compare"] := by
    decide
  have hmem : ∀ name ∈ run.asked, name ∈ candidates ["Number_compare", "String_compare"] := by
    intro name hmem
    rw [hbuiltins]
    simpa using (List.mem_filter.1 hmem).2
  exact candidates_of_subset hmem

/-! ## Asking is resolving -/

/-- What is asked for was not delivered before, and is asked for once. -/
lemma eraseDups_append_unasked (fed : List String) :
    (fed ++ (unaskedTypes fed.eraseDups).map Comparator.nameFor).eraseDups =
      macroOrder fed.eraseDups := by
  have hnew : ∀ name ∈ (unaskedTypes fed.eraseDups).map Comparator.nameFor, name ∉ fed := by
    intro name hmem
    obtain ⟨operandType, hType, rfl⟩ := List.mem_map.1 hmem
    rw [← List.mem_eraseDups]
    exact (mem_unaskedTypes.1 hType).2.2
  have hremove : ((unaskedTypes fed.eraseDups).map Comparator.nameFor).removeAll fed =
      (unaskedTypes fed.eraseDups).map Comparator.nameFor := by
    rw [List.removeAll, List.filter_eq_self]
    intro name hmem
    simpa using hnew name hmem
  have hnodup : ((unaskedTypes fed.eraseDups).map Comparator.nameFor).Nodup :=
    List.Nodup.map Comparator.nameFor_injective (nodup_unaskedTypes _)
  rw [List.eraseDups_append, hremove, Ledger.eraseDups_of_nodup hnodup, macroOrder]

/-- A run that is asked for what it needs has written its names and the names that it was asked
for. -/
lemma feedAll_asked (fed : List String) :
    ((start settings).feedAll fed).feedAll ((start settings).feedAll fed).asked =
      ofTokens settings.normalized (macroOrder fed.eraseDups) := by
  rw [← feedAll_append, feedAll_start settings fed, asked_ofTokens, feedAll_start,
    eraseDups_append_unasked]

/-- A run is resolved by writing its names and those of the comparators that nobody asked for. -/
lemma resolve_ofTokens_eq :
    (ofTokens settings.normalized tokens).resolve =
      ofTokens settings.normalized (macroOrder tokens) := by
  have hspells := fun token => @spellsComparator_of_unasked tokens token
  have hcomparators : (ofTokens settings.normalized tokens).comparators ++
      (builtins settings.normalized tokens).map (·.block settings.normalized) =
        (ofTokens settings.normalized (macroOrder tokens)).comparators := by
    rw [ofTokens_comparators, ofTokens_comparators, builtins_block, macroOrder, List.filter_append,
      List.filter_eq_self.2 hspells, List.map_append]
  have hassertions : (ofTokens settings.normalized tokens).assertions =
      (ofTokens settings.normalized (macroOrder tokens)).assertions := by
    have hnone : ((unaskedTypes tokens).map Comparator.nameFor).filter (!spellsComparator ·) = [] :=
      List.filter_eq_nil_iff.2 fun token hmem => by simp [hspells token hmem]
    rw [ofTokens_assertions, ofTokens_assertions, macroOrder, List.filter_append, hnone,
      List.append_nil]
  rw [resolve_ofTokens, fullHistory_eq, hcomparators]
  simp only [hassertions]
  rfl

/-- When the needed comparators have been asked for, none is left to be written. -/
lemma unaskedTypes_macroOrder : unaskedTypes (macroOrder tokens) = [] := by
  rw [List.eq_nil_iff_forall_not_mem]
  intro operandType hmem
  obtain ⟨hordered, hbuiltin, hnew⟩ := mem_unaskedTypes.1 hmem
  have hname : Comparator.nameFor operandType ∉ tokens :=
    fun h => hnew (List.mem_append_left _ h)
  -- The comparators behind the tokens order nothing, so it is a token that orders the type.
  rw [orderedTypes, List.mem_eraseDups, List.mem_filterMap] at hordered
  obtain ⟨token, htoken, hType⟩ := hordered
  rcases List.mem_append.1 htoken with htoken | hbehind
  · have hunasked : operandType ∈ unaskedTypes tokens := by
      refine mem_unaskedTypes.2 ⟨?_, hbuiltin, hname⟩
      rw [orderedTypes, List.mem_eraseDups, List.mem_filterMap]
      exact ⟨token, htoken, hType⟩
    exact hnew (List.mem_append_right _ (List.mem_map_of_mem hunasked))
  · rw [orderedType?_of_spellsComparator (spellsComparator_of_unasked hbehind)] at hType
    cases hType

lemma writeBuiltins_macroOrder :
    (ofTokens settings (macroOrder tokens)).ledger.writeBuiltins settings =
      ([], (ofTokens settings (macroOrder tokens)).ledger) := by
  have hbuiltins : (ofTokens settings (macroOrder tokens)).ledger.neededBuiltins =
      (unaskedTypes (macroOrder tokens)).map Comparator.ofType :=
    builtins_eq settings (macroOrder tokens)
  rw [Ledger.writeBuiltins, hbuiltins, unaskedTypes_macroOrder, List.map_nil, List.foldl_nil]

/-- A run that has no comparator to write is resolved as it is. -/
lemma resolve_of_writeBuiltins {run : Run}
    (h : run.ledger.writeBuiltins run.settings = ([], run.ledger)) : run.resolve = run := by
  rw [resolve, h]
  simp

section

variable (fed : List String)

lemma feedAll_asked_eq_resolve :
    ((start settings).feedAll fed).feedAll ((start settings).feedAll fed).asked =
      ((start settings).feedAll fed).resolve := by
  rw [feedAll_asked, feedAll_start, resolve_ofTokens_eq]

lemma writeBuiltins_resolve :
    ((start settings).feedAll fed).resolve.ledger.writeBuiltins
        ((start settings).feedAll fed).resolve.settings =
      ([], ((start settings).feedAll fed).resolve.ledger) := by
  rw [feedAll_start, resolve_ofTokens_eq]
  exact writeBuiltins_macroOrder settings.normalized fed.eraseDups

lemma finish_feedAll_asked :
    (((start settings).feedAll fed).feedAll ((start settings).feedAll fed).asked).finish =
      ((start settings).feedAll fed).finish := by
  rw [feedAll_asked_eq_resolve, finish,
    resolve_of_writeBuiltins (writeBuiltins_resolve settings fed), finish]

end

/-- **Comparators that are written by themselves are as good as asked for.**  Take any run and the
names of the comparators of numbers and strings that it still needs, in the order of their first
needs.  To feed it these names is to resolve it, so the documents without them and with them are the
same; and once they are fed, finishing writes no comparator and changes nothing.

In terms of lines: the document for any lines is that for the lines and, below them, the names that
are still needed. -/
theorem finish_asked (settings : Settings) (fed lines : List String) :
    let run := (start settings).feedAll fed
    let answered := run.feedAll run.asked
    answered.finish = run.finish ∧
    answered = run.resolve ∧
    answered.ledger.writeBuiltins answered.settings = ([], answered.ledger) ∧
    answered.resolve = answered ∧
    generate settings (lines ++ ((start settings).feedLines lines).asked) =
      generate settings lines := by
  intro run answered
  have hanswered : answered = run.resolve := feedAll_asked_eq_resolve settings fed
  have hwritten : answered.ledger.writeBuiltins answered.settings = ([], answered.ledger) := by
    rw [hanswered]
    exact writeBuiltins_resolve settings fed
  refine ⟨finish_feedAll_asked settings fed, hanswered, hwritten,
    resolve_of_writeBuiltins hwritten, ?_⟩
  have hlines := finish_feedAll_asked settings (candidates lines)
  rw [← feedLines_eq_feedAll, ← candidates_asked, ← feedLines_eq_feedAll] at hlines
  rw [generate, generate, feedLines, List.foldl_append]
  exact hlines

example : ((start {}).feedAll ["AssertStringEQ", "Assert_LT", "AssertPointEQ"]).asked =
    ["String_compare", "Number_compare"] := by
  decide

end Run

end AssertionHeader
