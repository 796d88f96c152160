/-!
# Lines

A document is written line by line, each line closed by a line feed.
-/

namespace AssertionHeader.Text

def line (text : String) : String :=
  text ++ "\n"

/-- Lines one below the other. -/
def unlines (lines : List String) : String :=
  String.join (lines.map line)

@[simp] theorem toList_unlines_nil : (unlines []).toList = [] := rfl

@[simp] theorem toList_unlines_cons (text : String) (rest : List String) :
    (unlines (text :: rest)).toList = text.toList ++ '\n' :: (unlines rest).toList := by
  simp [unlines, line]

theorem unlines_singleton (text : String) : unlines [text] = line text := by
  simp [unlines]

theorem unlines_append (first second : List String) :
    unlines (first ++ second) = unlines first ++ unlines second := by
  simp [unlines, String.join_append]

end AssertionHeader.Text
