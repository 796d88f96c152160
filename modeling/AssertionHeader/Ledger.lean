/-!
# The ledger of a run

While a header is written, the ledger records which macros are defined, which macros are needed but
not yet defined and by whom, and which headers must be included.  Names and headers are kept in the
order in which they were first seen, each once.

A definition settles a need for good: it strikes the name from the needs, and a later need for it is
not recorded.
-/

namespace AssertionHeader

/-- A macro that is needed, and the macros that use it. -/
structure Need where
  name : String
  users : List String := []
  deriving DecidableEq, Repr

/-- What a run has to remember about macros and headers. -/
structure Ledger where
  needs : List Need := []
  includes : List String := []
  defined : List String := []
  deriving DecidableEq, Repr

inductive LedgerEvent where
  | need (name : String)
  | needBy (name user : String)
  | includeHeader (header : String)
  | define (name : String)
  deriving DecidableEq, Repr

namespace Ledger

/-- A list with one more member at its end, unless it has the member already. -/
def insertLast (item : String) (items : List String) : List String :=
  if item ∈ items then items else items ++ [item]

def isDefined (ledger : Ledger) (name : String) : Bool :=
  ledger.defined.contains name

def isNeeded (ledger : Ledger) (name : String) : Bool :=
  ledger.needs.any (·.name == name)

/-- The needs with one for `name`, which `update` then changes. -/
def touch (name : String) (update : List String → List String) : List Need → List Need
  | [] => [⟨name, update []⟩]
  | need :: rest =>
    if need.name = name then ⟨need.name, update need.users⟩ :: rest
    else need :: touch name update rest

def need (ledger : Ledger) (name : String) : Ledger :=
  if ledger.isDefined name then ledger
  else { ledger with needs := touch name id ledger.needs }

def needBy (ledger : Ledger) (name user : String) : Ledger :=
  if ledger.isDefined name then ledger
  else { ledger with needs := touch name (insertLast user) ledger.needs }

def includeHeader (ledger : Ledger) (header : String) : Ledger :=
  { ledger with includes := insertLast header ledger.includes }

/-- Takes a macro from the needs, with all its users. -/
def strike (ledger : Ledger) (name : String) : Ledger :=
  { ledger with needs := ledger.needs.filter (·.name != name) }

def define (ledger : Ledger) (name : String) : Ledger :=
  { ledger.strike name with defined := insertLast name ledger.defined }

/-- Records that a macro is defined, and tells whether it was not defined before. -/
def defineNew (ledger : Ledger) (name : String) : Bool × Ledger :=
  (!ledger.isDefined name, ledger.define name)

def record (ledger : Ledger) : LedgerEvent → Ledger
  | .need name => ledger.need name
  | .needBy name user => ledger.needBy name user
  | .includeHeader header => ledger.includeHeader header
  | .define name => ledger.define name

def recordAll (ledger : Ledger) (events : List LedgerEvent) : Ledger :=
  events.foldl record ledger

/-- The needs that no definition has settled. -/
def unresolved (ledger : Ledger) : List Need :=
  ledger.needs.filter fun need => !ledger.isDefined need.name

theorem recordAll_append (ledger : Ledger) (first second : List LedgerEvent) :
    ledger.recordAll (first ++ second) = (ledger.recordAll first).recordAll second := by
  simp [recordAll]

end Ledger

end AssertionHeader
