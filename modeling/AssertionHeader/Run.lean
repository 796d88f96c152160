import AssertionHeader.Failure
import AssertionHeader.Header
import AssertionHeader.Text.Blank

/-!
# Runs

A run reads names and collects the blocks of the macros that they spell, each once, comparators
apart from all others.  When the names are read, the comparators of numbers and strings are written
if they are needed and were not asked for; all other needs go into the header's note.
-/

namespace AssertionHeader

/-! ## Comparators that need not be asked for -/

namespace Comparator

/-- The types whose comparators are written as soon as they are needed. -/
def builtinTypes : List String := ["Number", "String"]

/-- The comparator of the given name, if it need not be asked for. -/
def builtin? (name : String) : Option Comparator :=
  (builtinTypes.find? fun operandType => nameFor operandType == name).map ofType

end Comparator

namespace Ledger

/-- The comparators that are needed and need not be asked for, in the order of their needs. -/
def neededBuiltins (ledger : Ledger) : List Comparator :=
  ledger.needs.filterMap fun need => Comparator.builtin? need.name

/-- Writes a comparator behind the blocks and records it.  One that is defined already is not
written again, only struck from the needs. -/
def writeBuiltin (settings : Settings) (written : List Block × Ledger) (comparator : Comparator) :
    List Block × Ledger :=
  let (blocks, ledger) := written
  if ledger.isDefined comparator.name then (blocks, ledger.strike comparator.name)
  else (blocks ++ [comparator.block settings], ledger.recordAll (comparator.events settings))

/-- The blocks of the comparators that are needed and need not be asked for, and the ledger when
they are written. -/
def writeBuiltins (ledger : Ledger) (settings : Settings) : List Block × Ledger :=
  ledger.neededBuiltins.foldl (writeBuiltin settings) ([], ledger)

end Ledger

/-! ## Reading names -/

inductive Outcome where
  | assertion
  | comparator
  /-- The name spells no macro; its block says so. -/
  | unrecognized
  | duplicate
  deriving DecidableEq, Repr

structure Run where
  settings : Settings
  ledger : Ledger := {}
  comparators : List Block := []
  assertions : List Block := []
  deriving DecidableEq, Repr

namespace Run

/-- A run that has read nothing. -/
def start (settings : Settings) : Run :=
  { settings := settings.normalized }

/-- The run after the block of a name has been written. -/
def write (run : Run) (name : Name) : Run :=
  let ledger := run.ledger.recordAll (name.events run.settings)
  let block := name.block run.settings
  match name with
  | .comparator _ => { run with ledger, comparators := run.comparators ++ [block] }
  | .assertion _ | .unrecognized _ => { run with ledger, assertions := run.assertions ++ [block] }

/-- What becomes of a name that was not written before. -/
def outcomeOf : Name → Outcome
  | .assertion _ => .assertion
  | .comparator _ => .comparator
  | .unrecognized _ => .unrecognized

/-- What becomes of a name, and the run after it. -/
def feed (run : Run) (token : String) : Outcome × Run :=
  let name := Name.decode token
  if run.ledger.isDefined name.text then (.duplicate, run) else (outcomeOf name, run.write name)

/-- The run after a line.  A line that has not the form of a name is passed over. -/
def feedLine (run : Run) (line : String) : Run :=
  let token := Text.trim line.toList
  if Name.isCandidate token then (run.feed (String.ofList token)).2 else run

def feedLines (run : Run) (lines : List String) : Run :=
  lines.foldl feedLine run

/-- The run after the lines of a source, up to its first failure, and that failure. -/
def readSource (run : Run) : List (Except Failure String) → Option Failure × Run
  | [] => (none, run)
  | .ok line :: rest => (run.feedLine line).readSource rest
  | .error failure :: _ => (some failure, run)

/-- The run after all lines of a source, unless reading it fails. -/
def readWhole (run : Run) (lines : List (Except Failure String)) : Except Failure Run :=
  match run.readSource lines with
  | (none, run) => .ok run
  | (some failure, _) => .error failure

/-! ## The header of a run -/

/-- The run after the comparators that need not be asked for have been written. -/
def resolve (run : Run) : Run :=
  let (blocks, ledger) := run.ledger.writeBuiltins run.settings
  { run with ledger, comparators := run.comparators ++ blocks }

def header (run : Run) : Header :=
  .ofLedger run.settings.guard run.ledger run.comparators run.assertions

@[simp] theorem guard_header (run : Run) : run.header.guard = run.settings.guard := rfl

@[simp] theorem missing_header (run : Run) : run.header.missing = run.ledger.unresolved := rfl

@[simp] theorem includes_header (run : Run) : run.header.includes = run.ledger.includes := rfl

/-- The text of the header when all names are read. -/
def finish (run : Run) : String :=
  run.resolve.header.render

end Run

/-- The text of the header for the given names. -/
def generate (settings : Settings) (lines : List String) : String :=
  ((Run.start settings).feedLines lines).finish

end AssertionHeader
