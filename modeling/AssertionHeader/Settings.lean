/-!
# Settings

The settings shape the header that is written.  Each has a default.
-/

namespace AssertionHeader

/-- What a user may choose about the header. -/
structure Settings where
  /-- The macro that guards the header against a second inclusion. -/
  guard : String := "ASSERTIONS_H"
  reportFunction : String := "assert_report"
  /-- What closes the list of the caller's message arguments. -/
  sentinel : String := "(const char *) 0"
  /-- What follows an operation in the test that it failed. -/
  failureCondition : String := "< 0"
  /-- The column at which documentation is broken into lines. -/
  wrapWidth : Nat := 78
  nullHeader : String := "stddef.h"
  stringHeader : String := "string.h"
  deriving DecidableEq, Repr

namespace Settings

/-- The least column at which documentation stays readable. -/
def leastWrapWidth : Nat := 40

/-- The settings with a readable width of documentation. -/
def normalized (settings : Settings) : Settings :=
  { settings with wrapWidth := max settings.wrapWidth leastWrapWidth }

theorem leastWrapWidth_le_normalized (settings : Settings) :
    leastWrapWidth ≤ settings.normalized.wrapWidth :=
  Nat.le_max_right _ _

theorem normalized_normalized (settings : Settings) :
    settings.normalized.normalized = settings.normalized := by
  simp only [normalized, Nat.max_assoc, Nat.max_self]

end Settings

end AssertionHeader
