import AssertionHeader.Proofs.Grammar
import AssertionHeader.Proofs.History
import AssertionHeader.Run

/-!
# What a run has written

A run passes over lines that have not the form of a name and over names that it has written before.
`feedLines_start` says what this amounts to: after any lines, the run is the one that writes the
distinct names of the lines, in the order in which they first occur (`Run.ofTokens`).  Its ledger
has the history of the blocks that were written, and nothing else.

For the header, comparators that nobody asked for are written behind the others.  Their history is
appended to that of the names (`resolve_ledger`).
-/

namespace AssertionHeader

/-! ## Names and their events -/

namespace Name

/-- Whether the name spells a comparator. -/
def isComparator : Name → Bool
  | comparator _ => true
  | assertion _ | unrecognized _ => false

@[simp] lemma text_decode (token : String) : (decode token).text = token := by
  unfold decode
  split
  · split <;> rfl
  · split
    · next operandType h =>
      obtain ⟨-, htoken⟩ := Comparator.splitType?_eq_some_iff.1 h
      rw [← String.toList_inj, htoken]
      simp [text, Comparator.name, Comparator.ofType, Comparator.nameFor, Comparator.suffix]
    · rfl

@[simp] lemma name_block (name : Name) (settings : Settings) :
    (name.block settings).name = name.text := by
  cases name with
  | assertion | comparator => rfl
  | unrecognized token =>
    simp only [block, Diagnostic.block, text]
    split <;> rfl

/-- Writing a name defines its macro and no other one. -/
lemma define_mem_events {name : Name} {settings : Settings} {macroName : String} :
    .define macroName ∈ name.events settings ↔ macroName = name.text := by
  cases name with
  | assertion a =>
    cases hcondition : a.condition <;>
      simp [events, Assertion.events, Assertion.needs, hcondition, text]
  | comparator c =>
    cases hstyle : c.style <;> simp [events, Comparator.events, Comparator.needs, hstyle, text]
  | unrecognized token => simp [events, Diagnostic.events, text]

/-- Only an assertion requests a macro: its comparator, for itself. -/
lemma needBy_mem_events {name : Name} {settings : Settings} {macroName user : String} :
    .needBy macroName user ∈ name.events settings ↔
      ∃ a, name = assertion a ∧ a.comparator? = some macroName ∧ user = a.name := by
  cases name with
  | assertion a =>
    cases hcondition : a.condition <;>
      simp [events, Assertion.events, Assertion.needs, Assertion.comparator?, hcondition, eq_comm]
  | comparator c =>
    cases hstyle : c.style <;> simp [events, Comparator.events, Comparator.needs, hstyle]
  | unrecognized token => simp [events, Diagnostic.events]

end Name

/-! ## Runs of names -/

namespace Run

/-- The run that has written the given names. -/
def ofNames (settings : Settings) (names : List Name) : Run :=
  { settings
    ledger := .ofHistory (names.flatMap (·.events settings))
    comparators := (names.filter (·.isComparator)).map (·.block settings)
    assertions := (names.filter (!·.isComparator)).map (·.block settings) }

/-- The run that has written what the given tokens spell. -/
def ofTokens (settings : Settings) (tokens : List String) : Run :=
  ofNames settings (tokens.map Name.decode)

/-- The names that lines deliver. -/
def candidates (lines : List String) : List String :=
  (lines.map fun line => Text.trim line.toList).filter Name.isCandidate |>.map String.ofList

lemma write_ofNames (settings : Settings) (names : List Name) (name : Name) :
    (ofNames settings names).write name = ofNames settings (names ++ [name]) := by
  have hledger : (Ledger.ofHistory (names.flatMap (·.events settings))).recordAll
      (name.events settings) = .ofHistory ((names ++ [name]).flatMap (·.events settings)) := by
    rw [Ledger.recordAll_ofHistory]
    simp
  cases name <;> simp [write, ofNames, hledger, Name.isComparator]

lemma isDefined_ofTokens {settings : Settings} {tokens : List String} {token : String} :
    (ofTokens settings tokens).ledger.isDefined token = true ↔ token ∈ tokens := by
  simp [ofTokens, ofNames, Ledger.isDefined, Ledger.ofHistory, Ledger.mem_definedBy,
    Name.define_mem_events]

/-- A name is written unless it was written before. -/
lemma feed_ofTokens (settings : Settings) (tokens : List String) (token : String) :
    ((ofTokens settings tokens).feed token).2 =
      ofTokens settings (Ledger.insertLast token tokens) := by
  simp only [feed, Name.text_decode, isDefined_ofTokens, Ledger.insertLast]
  split
  · rfl
  · rw [ofTokens, write_ofNames, ofTokens, List.map_append, List.map_singleton]

lemma feedLine_ofTokens (settings : Settings) (tokens : List String) (line : String) :
    (ofTokens settings tokens).feedLine line = ofTokens settings
      ((candidates [line]).foldl (fun tokens token => Ledger.insertLast token tokens) tokens) := by
  cases h : Name.isCandidate (Text.trim line.toList) <;>
    simp [feedLine, candidates, h, feed_ofTokens]

/-- **After lines, a run has written their distinct names, in the order in which they first
occur.** -/
theorem feedLines_start (settings : Settings) (lines : List String) :
    (start settings).feedLines lines =
      ofTokens settings.normalized (candidates lines).eraseDups := by
  induction lines using List.reverseRecOn with
  | nil => rfl
  | append_singleton lines line ih =>
    have hcandidates : candidates (lines ++ [line]) = candidates lines ++ candidates [line] := by
      simp [candidates]
    rw [hcandidates]
    have hstep : (start settings).feedLines (lines ++ [line]) =
        ((start settings).feedLines lines).feedLine line := by
      simp [feedLines]
    rw [hstep, ih, feedLine_ofTokens]
    cases h : Name.isCandidate (Text.trim line.toList) <;>
      simp [candidates, h, Ledger.eraseDups_concat]

lemma mem_assertions_ofTokens {settings : Settings} {tokens : List String} {block : Block} :
    block ∈ (ofTokens settings tokens).assertions ↔
      ∃ token ∈ tokens, (Name.decode token).isComparator = false ∧
        (Name.decode token).block settings = block := by
  simp [ofTokens, ofNames, and_assoc]

lemma mem_comparators_ofTokens {settings : Settings} {tokens : List String} {block : Block} :
    block ∈ (ofTokens settings tokens).comparators ↔
      ∃ token ∈ tokens, (Name.decode token).isComparator = true ∧
        (Name.decode token).block settings = block := by
  simp [ofTokens, ofNames, and_assoc]

end Run

/-! ## Writing the comparators that nobody asked for -/

namespace Comparator

lemma nameFor_inj {s t : String} : nameFor s = nameFor t ↔ s = t := by
  simp [nameFor, ← String.toList_inj]

lemma nameFor_injective : Function.Injective nameFor :=
  fun _ _ => nameFor_inj.1

lemma builtin?_eq_some_iff {name : String} {comparator : Comparator} :
    builtin? name = some comparator ↔
      ∃ operandType ∈ builtinTypes, name = nameFor operandType ∧
        comparator = ofType operandType := by
  simp only [builtin?, Option.map_eq_some_iff]
  constructor
  · rintro ⟨operandType, hfind, rfl⟩
    have hname := List.find?_some hfind
    exact ⟨operandType, List.mem_of_find?_eq_some hfind, (beq_iff_eq.1 hname).symm, rfl⟩
  · rintro ⟨operandType, hmem, rfl, rfl⟩
    refine ⟨operandType, ?_, rfl⟩
    simp only [builtinTypes, List.mem_cons, List.not_mem_nil, or_false] at hmem
    rcases hmem with rfl | rfl <;> decide

lemma builtin?_nameFor (operandType : String) : builtin? (nameFor operandType) =
    if operandType ∈ builtinTypes then some (ofType operandType) else none := by
  by_cases h : operandType ∈ builtinTypes
  · rw [if_pos h, builtin?_eq_some_iff]
    exact ⟨operandType, h, rfl, rfl⟩
  · rw [if_neg h, Option.eq_none_iff_forall_ne_some]
    intro comparator hsome
    obtain ⟨other, hother, hname, -⟩ := builtin?_eq_some_iff.1 hsome
    exact h (nameFor_inj.1 hname ▸ hother)

end Comparator

namespace Comparator

lemma define_mem_events {comparator : Comparator} {settings : Settings} {name : String} :
    .define name ∈ comparator.events settings ↔ name = comparator.name :=
  @Name.define_mem_events (.comparator comparator) settings name

/-- Writing a comparator requests nothing. -/
lemma filterMap_requested?_events (comparator : Comparator) (settings : Settings) :
    (comparator.events settings).filterMap LedgerEvent.requested? = [] := by
  cases hstyle : comparator.style <;> simp [events, needs, hstyle, LedgerEvent.requested?]

lemma filterMap_userOf?_events (comparator : Comparator) (settings : Settings) (name : String) :
    (comparator.events settings).filterMap (LedgerEvent.userOf? name) = [] := by
  cases hstyle : comparator.style <;> simp [events, needs, hstyle, LedgerEvent.userOf?]

end Comparator

namespace Ledger

variable {settings : Settings} {events : List LedgerEvent}

lemma mem_neededBuiltins {comparator : Comparator} :
    comparator ∈ (ofHistory events).neededBuiltins ↔
      ∃ operandType ∈ Comparator.builtinTypes, comparator = .ofType operandType ∧
        Comparator.nameFor operandType ∈ requestedBy events ∧
        .define (Comparator.nameFor operandType) ∉ events := by
  simp only [neededBuiltins, List.mem_filterMap, Comparator.builtin?_eq_some_iff]
  constructor
  · rintro ⟨need, hneed, operandType, hmem, hname, rfl⟩
    obtain ⟨hrequested, hdefined, -⟩ := mem_needs_ofHistory.1 hneed
    exact ⟨operandType, hmem, rfl, hname ▸ hrequested, hname ▸ hdefined⟩
  · rintro ⟨operandType, hmem, rfl, hrequested, hdefined⟩
    exact ⟨⟨Comparator.nameFor operandType, usersIn events (Comparator.nameFor operandType)⟩,
      mem_needs_ofHistory.2 ⟨hrequested, hdefined, rfl⟩, operandType, hmem, rfl, rfl⟩

/-- The comparators that are written by themselves have the names of needs. -/
lemma names_neededBuiltins (ledger : Ledger) :
    ledger.neededBuiltins.map (·.name) =
      (ledger.needs.map (·.name)).filter fun name => (Comparator.builtin? name).isSome := by
  rw [neededBuiltins, List.map_filterMap, List.filter_map, ← List.filterMap_eq_map,
    List.filterMap_filter]
  refine List.filterMap_congr fun need _ => ?_
  cases hbuiltin : Comparator.builtin? need.name with
  | none => simp [hbuiltin]
  | some comparator =>
    obtain ⟨operandType, -, hname, rfl⟩ := Comparator.builtin?_eq_some_iff.1 hbuiltin
    have hsame : (Comparator.ofType operandType).name = need.name := hname.symm
    simp [hbuiltin, hsame]

lemma neededBuiltins_ofHistory (events : List LedgerEvent) :
    (ofHistory events).neededBuiltins =
      ((requestedBy events).filter (· ∉ definedBy events)).filterMap Comparator.builtin? := by
  rw [← names_ofHistory, List.filterMap_map]
  rfl

lemma nodup_neededBuiltins (events : List LedgerEvent) :
    ((ofHistory events).neededBuiltins.map (·.name)).Nodup := by
  rw [names_neededBuiltins, names_ofHistory]
  exact ((nodup_eraseDups _).filter _).filter _

section

variable (events : List LedgerEvent) (settings : Settings) (comparators : List Comparator)

lemma requestedBy_append_comparators :
    requestedBy (events ++ comparators.flatMap (·.events settings)) = requestedBy events := by
  have hnone : (comparators.flatMap (·.events settings)).filterMap LedgerEvent.requested? = [] := by
    rw [List.filterMap_flatMap, List.flatMap_eq_nil_iff]
    exact fun comparator _ => comparator.filterMap_requested?_events settings
  rw [requestedBy, List.filterMap_append, hnone, List.append_nil, requestedBy]

lemma usersIn_append_comparators (name : String) :
    usersIn (events ++ comparators.flatMap (·.events settings)) name = usersIn events name := by
  have hnone : (comparators.flatMap (·.events settings)).filterMap (LedgerEvent.userOf? name) =
      [] := by
    rw [List.filterMap_flatMap, List.flatMap_eq_nil_iff]
    exact fun comparator _ => comparator.filterMap_userOf?_events settings name
  rw [usersIn, List.filterMap_append, hnone, List.append_nil, usersIn]

end

/-- Comparators of different names that are not defined are all written, one after the other. -/
lemma foldl_writeBuiltin {comparators : List Comparator} (blocks : List Block)
    (hnodup : (comparators.map (·.name)).Nodup)
    (hnew : ∀ comparator ∈ comparators, .define comparator.name ∉ events) :
    comparators.foldl (writeBuiltin settings) (blocks, ofHistory events) =
      (blocks ++ comparators.map (·.block settings),
        ofHistory (events ++ comparators.flatMap (·.events settings))) := by
  induction comparators generalizing blocks events with
  | nil => simp
  | cons first rest ih =>
    obtain ⟨hfirst, hrest⟩ := List.nodup_cons.1 hnodup
    have hundefined : (ofHistory events).isDefined first.name = false := by
      rw [← Bool.not_eq_true, isDefined_ofHistory]
      exact hnew first List.mem_cons_self
    have hstep : writeBuiltin settings (blocks, ofHistory events) first =
        (blocks ++ [first.block settings], ofHistory (events ++ first.events settings)) := by
      simp [writeBuiltin, hundefined, recordAll_ofHistory]
    -- Writing the first comparator defines none of the others.
    have hnewRest : ∀ comparator ∈ rest,
        .define comparator.name ∉ events ++ first.events settings := by
      intro comparator hmem
      rw [List.mem_append, Comparator.define_mem_events, not_or]
      refine ⟨hnew comparator (List.mem_cons_of_mem _ hmem), fun hname => hfirst ?_⟩
      exact List.mem_map.2 ⟨comparator, hmem, hname⟩
    rw [List.foldl_cons, hstep, ih _ hrest hnewRest]
    simp

/-- In a ledger with a history, every comparator that is needed and need not be asked for is
written. -/
lemma writeBuiltins_ofHistory (settings : Settings) (events : List LedgerEvent) :
    (ofHistory events).writeBuiltins settings =
      ((ofHistory events).neededBuiltins.map (·.block settings),
        ofHistory (events ++ (ofHistory events).neededBuiltins.flatMap (·.events settings))) := by
  have hnew : ∀ comparator ∈ (ofHistory events).neededBuiltins,
      .define comparator.name ∉ events := by
    intro comparator hmem
    obtain ⟨operandType, -, rfl, -, hdefined⟩ := mem_neededBuiltins.1 hmem
    exact hdefined
  rw [writeBuiltins, foldl_writeBuiltin [] (nodup_neededBuiltins events) hnew, List.nil_append]

end Ledger

namespace Run

/-- What is recorded when the given tokens are written. -/
def history (settings : Settings) (tokens : List String) : List LedgerEvent :=
  (tokens.map Name.decode).flatMap (·.events settings)

/-- The comparators that are written behind those of the given tokens. -/
def builtins (settings : Settings) (tokens : List String) : List Comparator :=
  (Ledger.ofHistory (history settings tokens)).neededBuiltins

/-- Everything that is recorded for the header of the given tokens. -/
def fullHistory (settings : Settings) (tokens : List String) : List LedgerEvent :=
  history settings tokens ++ (builtins settings tokens).flatMap (·.events settings)

lemma resolve_ofTokens (settings : Settings) (tokens : List String) :
    (ofTokens settings tokens).resolve =
      { ofTokens settings tokens with
        ledger := .ofHistory (fullHistory settings tokens)
        comparators := (ofTokens settings tokens).comparators ++
          (builtins settings tokens).map (·.block settings) } := by
  have hledger : (ofTokens settings tokens).ledger = .ofHistory (history settings tokens) := rfl
  have hsettings : (ofTokens settings tokens).settings = settings := rfl
  simp only [resolve, hledger, hsettings, Ledger.writeBuiltins_ofHistory]
  rfl

lemma resolve_ledger (settings : Settings) (tokens : List String) :
    (ofTokens settings tokens).resolve.ledger = .ofHistory (fullHistory settings tokens) := by
  rw [resolve_ofTokens]

lemma resolve_comparators (settings : Settings) (tokens : List String) :
    (ofTokens settings tokens).resolve.comparators =
      (ofTokens settings tokens).comparators ++
        (builtins settings tokens).map (·.block settings) := by
  rw [resolve_ofTokens]

variable {settings : Settings} {tokens : List String} {name user : String}

lemma define_mem_history : .define name ∈ history settings tokens ↔ name ∈ tokens := by
  simp [history, Name.define_mem_events]

lemma needBy_mem_history : .needBy name user ∈ history settings tokens ↔
    ∃ token ∈ tokens, ∃ a, Name.decode token = .assertion a ∧ a.comparator? = some name ∧
      user = a.name := by
  simp [history, Name.needBy_mem_events]

lemma define_mem_fullHistory : .define name ∈ fullHistory settings tokens ↔
    name ∈ tokens ∨ ∃ comparator ∈ builtins settings tokens, name = comparator.name := by
  simp [fullHistory, define_mem_history, Comparator.define_mem_events]

/-- The comparators that nobody asked for request nothing. -/
lemma needBy_mem_fullHistory : .needBy name user ∈ fullHistory settings tokens ↔
    .needBy name user ∈ history settings tokens := by
  have hevents : ∀ comparator : Comparator, .needBy name user ∉ comparator.events settings := by
    intro comparator h
    obtain ⟨a, ha, -⟩ := (@Name.needBy_mem_events (.comparator comparator) settings name user).1 h
    cases ha
  simp [fullHistory, hevents]

end Run

end AssertionHeader
