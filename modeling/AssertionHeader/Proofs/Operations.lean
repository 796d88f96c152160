import AssertionHeader.Proofs.Written

/-!
# Operations on a ledger

A ledger is asked for three kinds of things: to record an event, to record what the block of a
macro calls for, and to write the comparators that need not be asked for.  Each counts as the
events that it records (`Operation.eventsAfter`), which for the last kind depend on what was
recorded before.

`after_determined` says that nothing but these events matters: a ledger holds what its history
amounts to (`Reflects`), in whatever order the events came.  It follows that what is needed and what
is defined never overlap, so that writing the needed comparators never comes upon one that is
defined already (`IsSettled`).
-/

namespace AssertionHeader.Ledger

/-! ## Operations and their history -/

/-- What a ledger can be asked to do. -/
inductive Operation where
  | record (event : LedgerEvent)
  /-- The block of a macro, or of a text that names none, is written. -/
  | write (name : Name) (settings : Settings)
  /-- The comparators that are needed and need not be asked for are written. -/
  | writeBuiltins (settings : Settings)

def apply (ledger : Ledger) : Operation → Ledger
  | .record event => ledger.record event
  | .write name settings => ledger.recordAll (name.events settings)
  | .writeBuiltins settings => (ledger.writeBuiltins settings).2

/-- The ledger after operations, the first of which finds it empty. -/
def after (operations : List Operation) : Ledger :=
  operations.foldl apply {}

/-- The events that an operation records when the given events were recorded before it.  The
comparators that are written by themselves are those that were requested and not defined. -/
def Operation.eventsAfter (events : List LedgerEvent) : Operation → List LedgerEvent
  | .record event => [event]
  | .write name settings => name.events settings
  | .writeBuiltins settings =>
    let needed := (requestedBy events).filter (· ∉ definedBy events)
    (needed.filterMap Comparator.builtin?).flatMap (·.events settings)

/-- All events that operations record. -/
def historyOf (operations : List Operation) : List LedgerEvent :=
  operations.foldl (fun events operation => events ++ operation.eventsAfter events) []

/-! ## What a history says of a ledger -/

/-- The ledger holds what the events amount to. -/
structure Reflects (ledger : Ledger) (events : List LedgerEvent) : Prop where
  /-- What is defined stands in the order of the first definitions, each once. -/
  defined : ledger.defined = definedBy events
  /-- A definition is new unless there was one before. -/
  defineNew : ∀ name, (ledger.defineNew name).1 = false ↔ .define name ∈ events
  /-- What was requested is needed unless it was defined, before the request or after it. -/
  isNeeded : ∀ name, ledger.isNeeded name = true ↔
    (.need name ∈ events ∨ ∃ user, .needBy name user ∈ events) ∧ .define name ∉ events
  /-- What is needed stands in the order of the first requests, with its users in the order of
  theirs. -/
  needs : ledger.needs = ((requestedBy events).filter (· ∉ definedBy events)).map fun name =>
    ⟨name, usersIn events name⟩
  includes : ledger.includes = includedBy events

/-- What is needed and what is defined are kept apart. -/
structure IsSettled (ledger : Ledger) : Prop where
  disjoint : (ledger.needs.map (·.name)).Disjoint ledger.defined
  unresolved : ledger.unresolved = ledger.needs
  /-- When it is the turn of a comparator to be written, it is not defined. -/
  undefined : ∀ settings before comparator behind,
    ledger.neededBuiltins = before ++ comparator :: behind →
      (before.foldl (writeBuiltin settings) ([], ledger)).2.isDefined comparator.name = false
  /-- When the needed comparators are written, none is needed that need not be asked for. -/
  builtins : ∀ settings, ∀ operandType ∈ Comparator.builtinTypes,
    (ledger.writeBuiltins settings).2.isNeeded (Comparator.nameFor operandType) = false

lemma reflects_ofHistory (events : List LedgerEvent) : (ofHistory events).Reflects events where
  defined := rfl
  defineNew name := by
    rw [← isDefined_ofHistory, defineNew, Bool.not_eq_false']
  isNeeded name := by
    rw [isNeeded_ofHistory, mem_requestedBy]
  needs := rfl
  includes := rfl

lemma isDefined_foldl_writeBuiltin {events : List LedgerEvent} {settings : Settings}
    {before behind : List Comparator} {comparator : Comparator}
    (h : (ofHistory events).neededBuiltins = before ++ comparator :: behind) :
    (before.foldl (writeBuiltin settings) ([], ofHistory events)).2.isDefined comparator.name =
      false := by
  have hnew : ∀ c ∈ before ++ comparator :: behind, .define c.name ∉ events := by
    intro c hc
    obtain ⟨operandType, -, rfl, -, hdefined⟩ := mem_neededBuiltins.1 (h ▸ hc)
    exact hdefined
  have hnodup : ((before ++ comparator :: behind).map (·.name)).Nodup :=
    h ▸ nodup_neededBuiltins events
  rw [List.map_append, List.map_cons, List.nodup_append] at hnodup
  obtain ⟨hbefore, -, hapart⟩ := hnodup
  rw [foldl_writeBuiltin [] hbefore fun c hc => hnew c (List.mem_append_left _ hc)]
  rw [← Bool.not_eq_true, isDefined_ofHistory, List.mem_append, not_or]
  refine ⟨hnew comparator (by simp), fun hdefine => ?_⟩
  -- Only a comparator before it could have defined its name; but no name comes twice.
  obtain ⟨c, hc, hevent⟩ := List.mem_flatMap.1 hdefine
  rw [Comparator.define_mem_events] at hevent
  exact hapart c.name (List.mem_map_of_mem hc) comparator.name List.mem_cons_self hevent.symm

lemma isNeeded_writeBuiltins {events : List LedgerEvent} {settings : Settings}
    {operandType : String} (h : operandType ∈ Comparator.builtinTypes) :
    ((ofHistory events).writeBuiltins settings).2.isNeeded (Comparator.nameFor operandType) =
      false := by
  rw [writeBuiltins_ofHistory, ← Bool.not_eq_true, isNeeded_ofHistory,
    requestedBy_append_comparators]
  rintro ⟨hrequested, hdefined⟩
  rw [List.mem_append, not_or] at hdefined
  have hneeded : .ofType operandType ∈ (ofHistory events).neededBuiltins :=
    mem_neededBuiltins.2 ⟨operandType, h, rfl, hrequested, hdefined.1⟩
  exact hdefined.2 (List.mem_flatMap.2 ⟨_, hneeded, Comparator.define_mem_events.2 rfl⟩)

lemma isSettled_ofHistory (events : List LedgerEvent) : (ofHistory events).IsSettled where
  disjoint := by
    rw [names_ofHistory]
    intro name hneeded hdefined
    have hnot : name ∉ definedBy events := by
      simpa using (List.mem_filter.1 hneeded).2
    exact hnot hdefined
  unresolved := unresolved_ofHistory events
  undefined _ _ _ _ h := isDefined_foldl_writeBuiltin h
  builtins _ _ h := isNeeded_writeBuiltins h

/-! ## Every ledger has a history -/

/-- An operation adds to the history what it records. -/
lemma apply_ofHistory (events : List LedgerEvent) (operation : Operation) :
    (ofHistory events).apply operation = ofHistory (events ++ operation.eventsAfter events) := by
  cases operation with
  | record event => exact record_ofHistory events event
  | write name settings => exact recordAll_ofHistory events _
  | writeBuiltins settings =>
    rw [apply, writeBuiltins_ofHistory, neededBuiltins_ofHistory]
    rfl

lemma after_eq_ofHistory (operations : List Operation) :
    after operations = ofHistory (historyOf operations) := by
  induction operations using List.reverseRecOn with
  | nil => rfl
  | append_singleton operations operation ih =>
    have hafter : after (operations ++ [operation]) = (after operations).apply operation := by
      simp [after]
    have hhistory : historyOf (operations ++ [operation]) =
        historyOf operations ++ operation.eventsAfter (historyOf operations) := by
      simp [historyOf]
    rw [hafter, hhistory, ih, apply_ofHistory]

/-- **A ledger is determined by its history.**  After any operations, a ledger that was empty holds
what they recorded and keeps apart what is needed and what is defined. -/
theorem after_determined (operations : List Operation) :
    (after operations).Reflects (historyOf operations) ∧ (after operations).IsSettled := by
  rw [after_eq_ofHistory]
  exact ⟨reflects_ofHistory _, isSettled_ofHistory _⟩

end AssertionHeader.Ledger
