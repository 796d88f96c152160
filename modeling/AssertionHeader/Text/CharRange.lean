/-!
# Character ranges

A property of characters that a standard lists code point by code point is held here as a table of
inclusive ranges, and tested by one function.
-/

namespace AssertionHeader.Text

/-- An inclusive range of code points. -/
structure CharRange where
  first : Nat
  last : Nat

namespace CharRange

def contains (range : CharRange) (c : Char) : Bool :=
  range.first ≤ c.toNat && c.toNat ≤ range.last

/-- Whether some range of the table contains `c`. -/
def tableContains (table : List CharRange) (c : Char) : Bool :=
  table.any (·.contains c)

theorem tableContains_iff {table : List CharRange} {c : Char} :
    tableContains table c = true ↔
      ∃ range ∈ table, range.first ≤ c.toNat ∧ c.toNat ≤ range.last := by
  simp [tableContains, contains]

end CharRange

end AssertionHeader.Text
