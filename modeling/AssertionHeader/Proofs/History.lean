import AssertionHeader.Ledger
import Mathlib.Data.List.Induction

/-!
# The history of a ledger

A ledger is changed event by event, and a definition strikes needs that were recorded before it and
blocks those that come after it.  `recordAll_eq_ofHistory` says what is left of a whole history:
the macros and headers are those of the events, each once and in the order of their first mention,
and a need is left exactly if no event, at whatever time, defines the macro.  The users of a macro
that is needed are those of its requests.

So the order of a request and a definition of the same name does not matter.
-/

namespace AssertionHeader

/-! ## What events mention -/

namespace LedgerEvent

/-- The macro that an event defines. -/
def defined? : LedgerEvent → Option String
  | define name => some name
  | need _ | needBy _ _ | includeHeader _ => none

/-- The macro that an event requests. -/
def requested? : LedgerEvent → Option String
  | need name | needBy name _ => some name
  | includeHeader _ | define _ => none

/-- The header that an event includes. -/
def included? : LedgerEvent → Option String
  | includeHeader header => some header
  | need _ | needBy _ _ | define _ => none

/-- The macro for which an event requests the macro `name`. -/
def userOf? (name : String) : LedgerEvent → Option String
  | needBy other user => if other = name then some user else none
  | need _ | includeHeader _ | define _ => none

end LedgerEvent

namespace Ledger

/-- The macros that the events define, in the order of their first definitions. -/
def definedBy (events : List LedgerEvent) : List String :=
  (events.filterMap LedgerEvent.defined?).eraseDups

/-- The macros that the events request, in the order of their first requests. -/
def requestedBy (events : List LedgerEvent) : List String :=
  (events.filterMap LedgerEvent.requested?).eraseDups

/-- The headers that the events include, in the order of their first inclusions. -/
def includedBy (events : List LedgerEvent) : List String :=
  (events.filterMap LedgerEvent.included?).eraseDups

/-- The macros for which the events request the macro `name`, in the order of their requests. -/
def usersIn (events : List LedgerEvent) (name : String) : List String :=
  (events.filterMap (LedgerEvent.userOf? name)).eraseDups

/-- The ledger that a history calls for. -/
def ofHistory (events : List LedgerEvent) : Ledger :=
  { needs := ((requestedBy events).filter (· ∉ definedBy events)).map fun name =>
      ⟨name, usersIn events name⟩
    includes := includedBy events
    defined := definedBy events }

/-! ## Membership -/

@[simp] lemma mem_insertLast {item other : String} {items : List String} :
    other ∈ insertLast item items ↔ other ∈ items ∨ other = item := by
  unfold insertLast
  split
  · next h => exact ⟨.inl, fun hor => hor.elim id fun heq => heq ▸ h⟩
  · simp

/-- What is mentioned by one event only is among the mentions of a history if this event is in the
history. -/
lemma mem_eraseDups_filterMap {mention : LedgerEvent → Option String} {item : String}
    {event : LedgerEvent} (h : ∀ other, mention other = some item ↔ other = event)
    {events : List LedgerEvent} :
    item ∈ (events.filterMap mention).eraseDups ↔ event ∈ events := by
  simp only [List.mem_eraseDups, List.mem_filterMap, h, exists_eq_right]

lemma mem_definedBy {events : List LedgerEvent} {name : String} :
    name ∈ definedBy events ↔ .define name ∈ events := by
  refine mem_eraseDups_filterMap fun other => ?_
  cases other <;> simp [LedgerEvent.defined?]

lemma mem_includedBy {events : List LedgerEvent} {header : String} :
    header ∈ includedBy events ↔ .includeHeader header ∈ events := by
  refine mem_eraseDups_filterMap fun other => ?_
  cases other <;> simp [LedgerEvent.included?]

lemma mem_usersIn {events : List LedgerEvent} {name user : String} :
    user ∈ usersIn events name ↔ .needBy name user ∈ events := by
  refine mem_eraseDups_filterMap fun other => ?_
  cases other <;> simp [LedgerEvent.userOf?]

lemma mem_requestedBy {events : List LedgerEvent} {name : String} :
    name ∈ requestedBy events ↔ .need name ∈ events ∨ ∃ user, .needBy name user ∈ events := by
  simp only [requestedBy, List.mem_eraseDups, List.mem_filterMap]
  constructor
  · rintro ⟨event, hmem, h⟩
    cases event with
    | need => cases h; exact .inl hmem
    | needBy _ user => cases h; exact .inr ⟨user, hmem⟩
    | includeHeader | define => cases h
  · rintro (hmem | ⟨user, hmem⟩)
    · exact ⟨_, hmem, rfl⟩
    · exact ⟨_, hmem, rfl⟩

/-- Whoever uses a macro requests it. -/
lemma mem_requestedBy_of_mem_usersIn {events : List LedgerEvent} {name user : String}
    (h : user ∈ usersIn events name) : name ∈ requestedBy events :=
  mem_requestedBy.2 (.inr ⟨user, mem_usersIn.1 h⟩)

/-! ## One more mention -/

lemma eraseDups_concat (items : List String) (item : String) :
    (items ++ [item]).eraseDups = insertLast item items.eraseDups := by
  by_cases h : item ∈ items <;>
    simp [List.eraseDups_append, List.removeAll, insertLast, List.eraseDups_cons, h]

/-- A mention, or none, behind the mentions of a history. -/
lemma eraseDups_filterMap_concat (mention : LedgerEvent → Option String) (events : List LedgerEvent)
    (event : LedgerEvent) :
    ((events ++ [event]).filterMap mention).eraseDups =
      match mention event with
      | some item => insertLast item (events.filterMap mention).eraseDups
      | none => (events.filterMap mention).eraseDups := by
  cases h : mention event <;> simp [List.filterMap_append, h, eraseDups_concat]

lemma filter_insertLast (p : String → Bool) (item : String) (items : List String) :
    (insertLast item items).filter p =
      if p item then insertLast item (items.filter p) else items.filter p := by
  by_cases hmem : item ∈ items <;> cases hp : p item <;> simp [insertLast, hmem, hp]

lemma eraseDups_filter (p : String → Bool) (items : List String) :
    (items.filter p).eraseDups = items.eraseDups.filter p := by
  induction items using List.reverseRecOn with
  | nil => rfl
  | append_singleton items item ih =>
    rw [List.filter_append, eraseDups_concat, filter_insertLast]
    cases h : p item <;> simp [h, ih, eraseDups_concat]

/-- Touching a need changes the users of that name only. -/
lemma touch_map {name : String} {update : List String → List String} {names : List String}
    {users : String → List String} (hnodup : names.Nodup) (hnew : name ∉ names → users name = []) :
    touch name update (names.map fun n => ⟨n, users n⟩) =
      (insertLast name names).map fun n => ⟨n, if n = name then update (users n) else users n⟩ := by
  induction names with
  | nil => simp [touch, insertLast, hnew]
  | cons first rest ih =>
    obtain ⟨hfirst, hrest⟩ := List.nodup_cons.1 hnodup
    by_cases heq : first = name
    · subst heq
      have hother : ∀ n ∈ rest, n ≠ first := fun n hn => by rintro rfl; exact hfirst hn
      simp only [List.map_cons, touch, if_true, insertLast, List.mem_cons_self, List.cons.injEq,
        true_and]
      exact List.map_congr_left fun n hn => by rw [if_neg (hother n hn)]
    · have hmem : name ∈ first :: rest ↔ name ∈ rest := by simp [Ne.symm heq]
      have hinsert : insertLast name (first :: rest) = first :: insertLast name rest := by
        simp only [insertLast, hmem]
        split <;> rfl
      rw [hinsert]
      simp [touch, heq, ih hrest fun h => hnew (mt hmem.1 h)]

lemma nodup_eraseDups (items : List String) : items.eraseDups.Nodup := by
  induction items using List.reverseRecOn with
  | nil => simp
  | append_singleton items item ih =>
    rw [eraseDups_concat, insertLast]
    split
    · exact ih
    · next h =>
      refine List.nodup_append.2 ⟨ih, by simp, fun other hother _ hitem heq => ?_⟩
      exact h (List.mem_singleton.1 hitem ▸ heq ▸ hother)

/-! ## The law of histories -/

section

variable (events : List LedgerEvent) (event : LedgerEvent)

lemma definedBy_concat : definedBy (events ++ [event]) =
    match event.defined? with
    | some name => insertLast name (definedBy events)
    | none => definedBy events :=
  eraseDups_filterMap_concat _ _ _

lemma requestedBy_concat : requestedBy (events ++ [event]) =
    match event.requested? with
    | some name => insertLast name (requestedBy events)
    | none => requestedBy events :=
  eraseDups_filterMap_concat _ _ _

lemma includedBy_concat : includedBy (events ++ [event]) =
    match event.included? with
    | some header => insertLast header (includedBy events)
    | none => includedBy events :=
  eraseDups_filterMap_concat _ _ _

lemma usersIn_concat (name : String) : usersIn (events ++ [event]) name =
    match event.userOf? name with
    | some user => insertLast user (usersIn events name)
    | none => usersIn events name :=
  eraseDups_filterMap_concat _ _ _

end

variable {events : List LedgerEvent} {name user : String}

/-- A request of a macro that is never defined, with what it does to the users. -/
lemma touch_ofHistory (h : name ∉ definedBy events) (update : List String → List String) :
    touch name update (ofHistory events).needs =
      ((insertLast name (requestedBy events)).filter (· ∉ definedBy events)).map fun n =>
        ⟨n, if n = name then update (usersIn events n) else usersIn events n⟩ := by
  have hnew : name ∉ (requestedBy events).filter (· ∉ definedBy events) →
      usersIn events name = [] := by
    intro hmem
    refine List.eq_nil_iff_forall_not_mem.2 fun user huser => hmem ?_
    simpa [h] using mem_requestedBy_of_mem_usersIn huser
  have hnodup : ((requestedBy events).filter (· ∉ definedBy events)).Nodup :=
    (nodup_eraseDups _).filter _
  rw [filter_insertLast, if_pos (by simpa using h)]
  exact touch_map hnodup hnew

/-- A request of a macro that is defined adds none to the macros that are needed. -/
lemma filter_requested_of_defined (h : name ∈ definedBy events) :
    (insertLast name (requestedBy events)).filter (· ∉ definedBy events) =
      (requestedBy events).filter (· ∉ definedBy events) := by
  rw [filter_insertLast, if_neg (by simpa using h)]

lemma record_need : (ofHistory events).record (.need name) =
    ofHistory (events ++ [.need name]) := by
  simp only [record, need, isDefined, List.contains_iff_mem, ofHistory, definedBy_concat,
    requestedBy_concat, includedBy_concat, usersIn_concat, LedgerEvent.defined?,
    LedgerEvent.requested?, LedgerEvent.included?, LedgerEvent.userOf?]
  split
  · next h => rw [filter_requested_of_defined h]
  · next h =>
    have htouch := touch_ofHistory h id
    simp only [ofHistory, id_eq, ite_self] at htouch
    rw [htouch]

lemma record_needBy : (ofHistory events).record (.needBy name user) =
    ofHistory (events ++ [.needBy name user]) := by
  have husers : ∀ n, usersIn (events ++ [.needBy name user]) n =
      if n = name then insertLast user (usersIn events n) else usersIn events n := by
    intro n
    rw [usersIn_concat]
    by_cases heq : n = name <;> simp [LedgerEvent.userOf?, heq, Ne.symm]
  simp only [record, needBy, isDefined, List.contains_iff_mem, ofHistory, definedBy_concat,
    requestedBy_concat, includedBy_concat, husers, LedgerEvent.defined?, LedgerEvent.requested?,
    LedgerEvent.included?]
  split
  · next h =>
    rw [filter_requested_of_defined h]
    congr 1
    refine List.map_congr_left fun n hn => ?_
    have hne : n ≠ name := by
      rintro rfl
      simp only [List.mem_filter, decide_eq_true_eq] at hn
      exact hn.2 h
    rw [if_neg hne]
  · next h =>
    have htouch := touch_ofHistory h (insertLast user)
    simp only [ofHistory] at htouch
    rw [htouch]

lemma record_includeHeader : (ofHistory events).record (.includeHeader name) =
    ofHistory (events ++ [.includeHeader name]) := by
  simp only [record, includeHeader, ofHistory, definedBy_concat, requestedBy_concat,
    includedBy_concat, usersIn_concat, LedgerEvent.defined?, LedgerEvent.requested?,
    LedgerEvent.included?, LedgerEvent.userOf?]

lemma record_define : (ofHistory events).record (.define name) =
    ofHistory (events ++ [.define name]) := by
  have hfilter : ∀ n, (n != name && decide (n ∉ definedBy events)) =
      decide (n ∉ insertLast name (definedBy events)) := by
    intro n
    by_cases heq : n = name <;> simp [heq]
  simp only [record, define, strike, ofHistory, definedBy_concat, requestedBy_concat,
    includedBy_concat, usersIn_concat, LedgerEvent.defined?, LedgerEvent.requested?,
    LedgerEvent.included?, LedgerEvent.userOf?, List.filter_map, List.filter_filter,
    Function.comp_def, hfilter]

/-- The ledger that a history calls for, with one event more. -/
lemma record_ofHistory (events : List LedgerEvent) (event : LedgerEvent) :
    (ofHistory events).record event = ofHistory (events ++ [event]) := by
  cases event with
  | need name => exact record_need
  | needBy name user => exact record_needBy
  | includeHeader header => exact record_includeHeader
  | define name => exact record_define

/-- **A ledger is determined by its history.** -/
theorem recordAll_eq_ofHistory (events : List LedgerEvent) :
    ({} : Ledger).recordAll events = ofHistory events := by
  induction events using List.reverseRecOn with
  | nil => rfl
  | append_singleton events event ih =>
    rw [recordAll_append, ih]
    exact record_ofHistory events event

lemma recordAll_ofHistory (events more : List LedgerEvent) :
    (ofHistory events).recordAll more = ofHistory (events ++ more) := by
  rw [← recordAll_eq_ofHistory, ← recordAll_append, recordAll_eq_ofHistory]

lemma isDefined_ofHistory : (ofHistory events).isDefined name = true ↔ .define name ∈ events := by
  rw [isDefined, List.contains_iff_mem, ofHistory, mem_definedBy]

/-- A macro is needed exactly if it was requested and never defined, with everyone who asked for
it. -/
lemma mem_needs_ofHistory {need : Need} : need ∈ (ofHistory events).needs ↔
    need.name ∈ requestedBy events ∧ .define need.name ∉ events ∧
      need.users = usersIn events need.name := by
  simp only [ofHistory, List.mem_map, List.mem_filter, decide_eq_true_eq, ← mem_definedBy]
  constructor
  · rintro ⟨n, ⟨hrequested, hdefined⟩, rfl⟩
    exact ⟨hrequested, hdefined, rfl⟩
  · rintro ⟨hrequested, hdefined, husers⟩
    exact ⟨need.name, ⟨hrequested, hdefined⟩, by rw [← husers]⟩

lemma isNeeded_ofHistory : (ofHistory events).isNeeded name = true ↔
    name ∈ requestedBy events ∧ .define name ∉ events := by
  simp only [isNeeded, List.any_eq_true, beq_iff_eq]
  constructor
  · rintro ⟨need, hneed, rfl⟩
    obtain ⟨hrequested, hdefined, -⟩ := mem_needs_ofHistory.1 hneed
    exact ⟨hrequested, hdefined⟩
  · rintro ⟨hrequested, hdefined⟩
    exact ⟨⟨name, usersIn events name⟩, mem_needs_ofHistory.2 ⟨hrequested, hdefined, rfl⟩, rfl⟩

lemma names_ofHistory (events : List LedgerEvent) :
    (ofHistory events).needs.map (·.name) =
      (requestedBy events).filter (· ∉ definedBy events) := by
  simp [ofHistory, Function.comp_def]

/-- No macro that is needed is defined. -/
lemma unresolved_ofHistory (events : List LedgerEvent) :
    (ofHistory events).unresolved = (ofHistory events).needs := by
  rw [unresolved, List.filter_eq_self]
  intro need hneed
  have hdefined : .define need.name ∉ events := (mem_needs_ofHistory.1 hneed).2.1
  rw [← isDefined_ofHistory] at hdefined
  simpa using hdefined

/-- A user is noted for a macro exactly if it asked for the macro and no event defines it. -/
lemma exists_unresolved_user : (∃ need ∈ (ofHistory events).unresolved,
      need.name = name ∧ user ∈ need.users) ↔
    .needBy name user ∈ events ∧ .define name ∉ events := by
  rw [unresolved_ofHistory]
  constructor
  · rintro ⟨need, hmem, rfl, huser⟩
    obtain ⟨-, hdefined, husers⟩ := mem_needs_ofHistory.1 hmem
    exact ⟨mem_usersIn.1 (husers ▸ huser), hdefined⟩
  · rintro ⟨hneed, hdefined⟩
    have huser := mem_usersIn.2 hneed
    exact ⟨⟨name, usersIn events name⟩, mem_needs_ofHistory.2
      ⟨mem_requestedBy_of_mem_usersIn huser, hdefined, rfl⟩, rfl, huser⟩

end Ledger

end AssertionHeader
