import AssertionHeader.Proofs.Written

/-!
# Requests of a run

Only assertions of an order request anything: each asks, for itself, for the comparator of its
operand type.  So the requests of a run are told by the types that its tokens order
(`Run.orderedTypes`), in the order in which the first assertion on each type came.

Of the comparators that are requested, those whose names were delivered are settled.  Of the others,
those of numbers and strings are written at the end (`Run.builtins_eq`); the rest is left to the
user (`Run.unresolved_fullHistory`).
-/

namespace AssertionHeader

/-! ## The request of a name -/

namespace Name

/-- The type whose values the name's assertion orders. -/
def orderedType? : Name → Option String
  | assertion a =>
    match a.condition with
    | .order _ => some a.operandType
    | _ => none
  | comparator _ | unrecognized _ => none

lemma filterMap_requested?_events (name : Name) (settings : Settings) :
    (name.events settings).filterMap LedgerEvent.requested? =
      (name.orderedType?.map Comparator.nameFor).toList := by
  cases name with
  | assertion a =>
    cases hcondition : a.condition <;>
      simp [events, Assertion.events, Assertion.needs, orderedType?, hcondition,
        LedgerEvent.requested?]
  | comparator c => exact c.filterMap_requested?_events settings
  | unrecognized token => rfl

lemma filterMap_userOf?_events (name : Name) (settings : Settings) (operandType : String) :
    (name.events settings).filterMap (LedgerEvent.userOf? (Comparator.nameFor operandType)) =
      if name.orderedType? = some operandType then [name.text] else [] := by
  cases name with
  | assertion a =>
    cases hcondition : a.condition with
    | order relation =>
      by_cases hType : a.operandType = operandType
      · simp [events, Assertion.events, Assertion.needs, orderedType?, hcondition, hType, text,
          LedgerEvent.userOf?]
      · have hname : Comparator.nameFor a.operandType ≠ Comparator.nameFor operandType :=
          mt Comparator.nameFor_inj.1 hType
        simp [events, Assertion.events, Assertion.needs, orderedType?, hcondition, hType, hname,
          LedgerEvent.userOf?]
    | _ =>
      simp [events, Assertion.events, Assertion.needs, orderedType?, hcondition,
        LedgerEvent.userOf?]
  | comparator c => exact c.filterMap_userOf?_events settings _
  | unrecognized token => rfl

end Name

/-! ## The requests of a history -/

namespace Ledger

lemma eraseDups_of_nodup {items : List String} (h : items.Nodup) : items.eraseDups = items := by
  induction items using List.reverseRecOn with
  | nil => rfl
  | append_singleton items item ih =>
    obtain ⟨hitems, -, hapart⟩ := List.nodup_append.1 h
    have hnew : item ∉ items := fun hmem => hapart item hmem item List.mem_cons_self rfl
    rw [eraseDups_concat, ih hitems, insertLast, if_neg hnew]

lemma eraseDups_map {f : String → String} (hf : f.Injective) (items : List String) :
    (items.map f).eraseDups = items.eraseDups.map f := by
  induction items using List.reverseRecOn with
  | nil => rfl
  | append_singleton items item ih =>
    have hmem : f item ∈ items.eraseDups.map f ↔ item ∈ items.eraseDups :=
      List.mem_map_of_injective hf
    rw [List.map_append, List.map_singleton, eraseDups_concat, eraseDups_concat, ih, insertLast,
      insertLast, apply_ite (List.map f), List.map_append, List.map_singleton]
    exact if_congr hmem rfl rfl

end Ledger

namespace Run

/-- The types whose values the tokens' assertions order, in the order of their first
assertions. -/
def orderedTypes (tokens : List String) : List String :=
  (tokens.filterMap fun token => (Name.decode token).orderedType?).eraseDups

/-- The tokens whose assertions order values of the given type. -/
def ordersOf (operandType : String) (tokens : List String) : List String :=
  tokens.filter fun token => (Name.decode token).orderedType? = some operandType

/-- The types whose comparators are requested, were not delivered and need not be asked for. -/
def unaskedTypes (tokens : List String) : List String :=
  (orderedTypes tokens).filter fun operandType =>
    operandType ∈ Comparator.builtinTypes ∧ Comparator.nameFor operandType ∉ tokens

lemma mem_unaskedTypes {operandType : String} {tokens : List String} :
    operandType ∈ unaskedTypes tokens ↔ operandType ∈ orderedTypes tokens ∧
      operandType ∈ Comparator.builtinTypes ∧ Comparator.nameFor operandType ∉ tokens := by
  rw [unaskedTypes, List.mem_filter, decide_eq_true_iff]

lemma nodup_unaskedTypes (tokens : List String) : (unaskedTypes tokens).Nodup :=
  (Ledger.nodup_eraseDups _).filter _

variable (settings : Settings) (tokens : List String)

lemma requestedBy_history :
    Ledger.requestedBy (history settings tokens) =
      (orderedTypes tokens).map Comparator.nameFor := by
  have hrequests : (history settings tokens).filterMap LedgerEvent.requested? =
      (tokens.filterMap fun token => (Name.decode token).orderedType?).map Comparator.nameFor := by
    simp only [history, List.filterMap_flatMap, List.flatMap_map,
      Name.filterMap_requested?_events, List.map_filterMap]
    exact (List.filterMap_eq_flatMap_toList _ _).symm
  rw [Ledger.requestedBy, hrequests, Ledger.eraseDups_map Comparator.nameFor_injective,
    orderedTypes]

variable {tokens}

lemma usersIn_history (hnodup : tokens.Nodup) (operandType : String) :
    Ledger.usersIn (history settings tokens) (Comparator.nameFor operandType) =
      ordersOf operandType tokens := by
  have hfilter : ∀ list : List String, (list.flatMap fun token =>
      if (Name.decode token).orderedType? = some operandType then [token] else []) =
        ordersOf operandType list := by
    intro list
    induction list with
    | nil => rfl
    | cons token rest ih =>
      rw [List.flatMap_cons, ih, ordersOf, ordersOf, List.filter_cons]
      by_cases h : (Name.decode token).orderedType? = some operandType <;> simp [h]
  have husers : (history settings tokens).filterMap
      (LedgerEvent.userOf? (Comparator.nameFor operandType)) = ordersOf operandType tokens := by
    simp only [history, List.filterMap_flatMap, List.flatMap_map, Name.filterMap_userOf?_events,
      Name.text_decode, hfilter]
  rw [Ledger.usersIn, husers]
  exact Ledger.eraseDups_of_nodup (hnodup.filter _)

/-! ## What becomes of the requests -/

variable (tokens)

lemma mem_definedBy_history {name : String} :
    name ∈ Ledger.definedBy (history settings tokens) ↔ name ∈ tokens := by
  rw [Ledger.mem_definedBy, define_mem_history]

/-- The comparators that are written by themselves, in the order of their first requests. -/
lemma builtins_eq :
    builtins settings tokens = (unaskedTypes tokens).map Comparator.ofType := by
  rw [builtins, unaskedTypes, Ledger.neededBuiltins_ofHistory, requestedBy_history, List.filter_map,
    List.filterMap_map, List.filterMap_filter, ← List.filterMap_eq_map, List.filterMap_filter]
  refine List.filterMap_congr fun operandType _ => ?_
  by_cases hfed : Comparator.nameFor operandType ∈ tokens
  · simp [mem_definedBy_history, hfed]
  · by_cases hbuiltin : operandType ∈ Comparator.builtinTypes
    · simp [mem_definedBy_history, hfed, hbuiltin, Comparator.builtin?_nameFor]
    · simp [mem_definedBy_history, hfed, hbuiltin, Comparator.builtin?_nameFor]

variable {settings tokens}

/-- A comparator that is requested comes to be defined if its name is delivered or it need not be
asked for. -/
lemma define_nameFor_mem_fullHistory {operandType : String}
    (h : operandType ∈ orderedTypes tokens) :
    .define (Comparator.nameFor operandType) ∈ fullHistory settings tokens ↔
      Comparator.nameFor operandType ∈ tokens ∨ operandType ∈ Comparator.builtinTypes := by
  rw [define_mem_fullHistory, builtins_eq]
  constructor
  · rintro (hfed | ⟨comparator, hmem, hname⟩)
    · exact .inl hfed
    · obtain ⟨other, hother, rfl⟩ := List.mem_map.1 hmem
      obtain rfl := Comparator.nameFor_inj.1 hname
      exact .inr (mem_unaskedTypes.1 hother).2.1
  · intro hor
    by_cases hfed : Comparator.nameFor operandType ∈ tokens
    · exact .inl hfed
    · have hbuiltin : operandType ∈ Comparator.builtinTypes := hor.resolve_left hfed
      refine .inr ⟨.ofType operandType, List.mem_map_of_mem ?_, rfl⟩
      exact mem_unaskedTypes.2 ⟨h, hbuiltin, hfed⟩

variable (settings)

/-- The comparators that are left to the user, in the order of their first requests, each with the
assertions that call it. -/
lemma unresolved_fullHistory (hnodup : tokens.Nodup) :
    (Ledger.ofHistory (fullHistory settings tokens)).unresolved =
      ((orderedTypes tokens).filter fun operandType => operandType ∉ Comparator.builtinTypes ∧
        Comparator.nameFor operandType ∉ tokens).map fun operandType =>
          ⟨Comparator.nameFor operandType, ordersOf operandType tokens⟩ := by
  have hrequested : Ledger.requestedBy (fullHistory settings tokens) =
      (orderedTypes tokens).map Comparator.nameFor := by
    rw [fullHistory, Ledger.requestedBy_append_comparators, requestedBy_history]
  have husers : ∀ operandType, Ledger.usersIn (fullHistory settings tokens)
      (Comparator.nameFor operandType) = ordersOf operandType tokens := by
    intro operandType
    rw [fullHistory, Ledger.usersIn_append_comparators, usersIn_history settings hnodup]
  have hleft : ∀ operandType ∈ orderedTypes tokens,
      decide (Comparator.nameFor operandType ∉ Ledger.definedBy (fullHistory settings tokens)) =
        decide (operandType ∉ Comparator.builtinTypes ∧
          Comparator.nameFor operandType ∉ tokens) := by
    intro operandType hmem
    rw [decide_eq_decide, Ledger.mem_definedBy, define_nameFor_mem_fullHistory hmem, not_or,
      and_comm]
  rw [Ledger.unresolved_ofHistory, Ledger.ofHistory, hrequested, List.filter_map, List.map_map]
  simp only [Function.comp_def, husers]
  rw [List.filter_congr hleft]

end Run

end AssertionHeader
