import AssertionHeader.Text.Width

/-!
# Laws of display width

A character that takes a column back finds one to take: `owed` names the tails that it may follow,
and `owed_advance_le` says that such a tail has always been counted.  So the sum never falls below
zero, and the widths at the sides of a blank add up (`width_append_space`).
-/

namespace AssertionHeader.Text

/-- A Khmer letter takes a column of its own. -/
theorem Ligature.columns_pos_of_khmerLetter {c : Char}
    (h : CharRange.tableContains khmerLetters c = true) : 1 ≤ columns c := by
  have bounds : 0x1780 ≤ c.toNat ∧ c.toNat ≤ 0x17AF := by
    obtain ⟨range, mem, low, high⟩ := CharRange.tableContains_iff.1 h
    have inside : ∀ range ∈ khmerLetters, 0x1780 ≤ range.first ∧ range.last ≤ 0x17AF := by decide
    have := inside range mem
    omega
  have notZero : CharRange.tableContains zeroWidth c = false := by
    have outside : ∀ range ∈ zeroWidth, range.last < 0x1780 ∨ 0x17AF < range.first := by
      decide +kernel
    rw [Bool.eq_false_iff]
    intro contained
    obtain ⟨range, mem, low, high⟩ := CharRange.tableContains_iff.1 contained
    have := outside range mem
    omega
  grind [columns]

/-- The columns that a character before the part may take back from the sum. -/
def Ligature.owed : Ligature → Int
  | tifinaghJoined | khmerLetter => 1
  | _ => 0

theorem Ligature.owed_nonneg (part : Ligature) : 0 ≤ part.owed := by
  unfold owed
  split <;> decide

/-- The columns that a character before the tail may take back from the sum. -/
def Tail.owed : Tail → Int
  | ligature part => part.owed
  | joinedLetters count => if count % 2 = 1 then 1 else 0
  | _ => 0

theorem Tail.owed_nonneg (tail : Tail) : 0 ≤ tail.owed := by
  unfold owed
  split
  · exact Ligature.owed_nonneg _
  · split <;> decide
  · decide

theorem Ligature.owed_join (part : Ligature) : part.join.owed = part.owed := by
  cases part <;> rfl

theorem Ligature.owed_ofChar?_le {c : Char} {part : Ligature} (h : ofChar? c = some part) :
    part.owed ≤ columns c := by
  grind [ofChar?, Ligature.owed, columns_pos_of_khmerLetter]

theorem Tail.owed_ofChar_le (c : Char) : (ofChar c).owed ≤ columns c := by
  unfold ofChar
  split
  · simp [Tail.owed]
  split
  · simp [Tail.owed]
  split
  · simp [Tail.owed]
  split
  · next part h => exact Ligature.owed_ofChar?_le h
  · simp [Tail.owed]

/-- A part that lets `c` extend it has counted what it owes, and so has the part that is left. -/
theorem Ligature.owed_extend?_le {c : Char} {part : Ligature} {added : Int}
    {longer : Option Ligature} (h : part.extend? c = some (added, longer)) :
    (longer.elim 0 Ligature.owed) ≤ part.owed + added := by
  cases part <;> grind [extend?, Ligature.owed, Ligature.owed_join]

/-- A tail that shares columns with `c` has counted what it owes, and so has the tail that is
left. -/
theorem Tail.owed_extend?_le {c : Char} {tail longer : Tail} {added : Int}
    (h : tail.extend? c = some (added, longer)) : longer.owed ≤ tail.owed + added := by
  cases tail with
  | ligature part =>
    simp only [extend?] at h
    split at h
    · next heq =>
      obtain ⟨rfl, rfl⟩ := Prod.mk.inj (Option.some.inj h)
      simpa [Tail.owed] using Ligature.owed_extend?_le heq
    · next heq =>
      obtain ⟨rfl, rfl⟩ := Prod.mk.inj (Option.some.inj h)
      simpa [Tail.owed] using Ligature.owed_extend?_le heq
    · simp at h
  | _ => grind [extend?, Tail.owed]

theorem Tail.owed_ligatureOnly_le (tail : Tail) : tail.ligatureOnly.owed ≤ tail.owed := by
  have := tail.owed_nonneg
  cases tail <;> simp_all [ligatureOnly, Tail.owed]

theorem Tail.owed_free : free.owed = 0 := rfl

theorem Tail.owed_lineFeed : lineFeed.owed = 0 := rfl

theorem Tail.owed_emoji : emoji.owed = 0 := rfl

theorem Tail.owed_advance_le (c : Char) (tail : Tail) :
    (tail.advance c).2.tail.owed ≤ tail.owed + (tail.advance c).1 := by
  have nonneg := tail.owed_nonneg
  have cut := tail.owed_ligatureOnly_le
  unfold advance
  split
  · split
    · simpa [owed_lineFeed] using nonneg
    · split
      · simpa [owed_free] using nonneg
      · simp only [owed_free]
        omega
  split
  · split <;> simp [cut]
  split
  · simpa using cut
  split
  · next heq => exact owed_extend?_le heq
  · have := owed_ofChar_le c
    simp only
    omega

/-- What is owed after `c` has been counted, whatever style is selected. -/
theorem Ahead.owed_advance_le (c : Char) (next : Ahead) :
    (next.advance c).2.tail.owed ≤ next.tail.owed + (next.advance c).1 := by
  have nonneg := next.tail.owed_nonneg
  unfold advance
  split
  · split
    · split <;> simp only [Tail.owed_emoji] <;> omega
    · have := Tail.owed_advance_le c next.tail.ligatureOnly
      have := next.tail.owed_ligatureOnly_le
      omega
  · split
    · simp only [Tail.owed_free]
      omega
    · exact Tail.owed_advance_le c next.tail
  · exact Tail.owed_advance_le c next.tail

@[simp] theorem measureFrom_cons (done : Int × Ahead) (c : Char) (text : List Char) :
    measureFrom done (c :: text) =
      ((measureFrom done text).1 + ((measureFrom done text).2.advance c).1,
        ((measureFrom done text).2.advance c).2) := rfl

theorem measureFrom_append (done : Int × Ahead) (s t : List Char) :
    measureFrom done (s ++ t) = measureFrom (measureFrom done t) s := by
  simp [measureFrom]

/-- Columns counted already stay in the sum and change nothing else. -/
theorem measureFrom_add (sum added : Int) (next : Ahead) (text : List Char) :
    measureFrom (sum + added, next) text =
      ((measureFrom (sum, next) text).1 + added, (measureFrom (sum, next) text).2) := by
  induction text with
  | nil => rfl
  | cons c text ih =>
    simp only [measureFrom_cons, ih]
    congr 1
    omega

/-- What a text still owes has been counted. -/
theorem owed_measureFrom_le {done : Int × Ahead} (h : done.2.tail.owed ≤ done.1)
    (text : List Char) : (measureFrom done text).2.tail.owed ≤ (measureFrom done text).1 := by
  induction text with
  | nil => exact h
  | cons c text ih =>
    have := Ahead.owed_advance_le c (measureFrom done text).2
    simp only [measureFrom_cons]
    omega

/-- The sum never falls below zero. -/
theorem measureFrom_nonneg (text : List Char) : 0 ≤ (measureFrom (0, {}) text).1 := by
  have start : (({} : Ahead).tail).owed ≤ 0 := by decide
  have : (measureFrom (0, {}) text).2.tail.owed ≤ (measureFrom (0, {}) text).1 :=
    owed_measureFrom_le start text
  have := (measureFrom (0, {}) text).2.tail.owed_nonneg
  omega

theorem width_eq (text : List Char) : (width text : Int) = (measureFrom (0, {}) text).1 :=
  Int.toNat_of_nonneg (measureFrom_nonneg text)

/-- A blank takes one column, whatever follows it. -/
theorem Ahead.advance_space (next : Ahead) : next.advance ' ' = (1, {}) := by
  have blank (tail : Tail) : tail.advance ' ' = (1, {}) := by simp [Tail.advance]
  unfold advance
  split <;> simp [takesEmojiStyle_space, takesTextStyle_space, blank]

/-- The widths of the texts at the sides of a blank add up. -/
theorem width_append_space (s t : List Char) :
    width (s ++ ' ' :: t) = width s + 1 + width t := by
  have split_at : measureFrom (0, {}) (s ++ ' ' :: t) =
      measureFrom (0 + ((measureFrom (0, {}) t).1 + 1), {}) s := by
    rw [measureFrom_append, measureFrom_cons, Ahead.advance_space, Int.zero_add]
  have := width_eq (s ++ ' ' :: t)
  rw [split_at, measureFrom_add, ← width_eq, ← width_eq] at this
  omega

/-- Text of characters from the blank up to U+00A0 takes a column a character. -/
theorem width_eq_length {text : List Char}
    (h : ∀ c ∈ text, 0x20 ≤ c.toNat ∧ c.toNat ≤ 0xA0) : width text = text.length := by
  have measured : measureFrom (0, {}) text = ((text.length : Int), {}) := by
    induction text with
    | nil => rfl
    | cons c text ih =>
      have bounds := h c (by simp)
      have notFeed : c ≠ '\n' := by rintro rfl; simp at bounds
      rw [measureFrom_cons, ih fun d mem => h d (by simp [mem])]
      simp [Ahead.advance, Tail.advance, bounds.2, notFeed]
  simp [width, measured]

end AssertionHeader.Text
