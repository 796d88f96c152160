import AssertionHeader.Source
import Mathlib.Tactic.Lemma

/-!
# Decoding line by line

In UTF-8 a line feed is a byte of its own.  It closes whatever sequence it interrupts, because a
sequence only goes on with larger bytes, and no longer sequence stands for a line feed, because its
bits amount to more (`State.IsLong`).  So the bytes of a text can be cut at their line feeds before
they are decoded or after, with the same pieces (`decodeLossy_append_lineFeed`,
`not_mem_decodeLossy`), however ill-formed the bytes are.
-/

namespace AssertionHeader.Text.Utf8

/-! ## The states of the decoder -/

section

variable {more low high value b : Nat}

lemma step_inside_last (h : low ≤ b ∧ b ≤ high) :
    step (.inside 0 low high value) b =
      ([some (Char.ofNat (value * 64 + (b - 0x80)))], .between) := by
  simp only [step, if_pos h]

lemma step_inside_more (h : low ≤ b ∧ b ≤ high) :
    step (.inside (more + 1) low high value) b =
      ([], .inside more 0x80 0xBF (value * 64 + (b - 0x80))) := by
  simp only [step, if_pos h]

lemma step_inside_unfit (h : ¬ (low ≤ b ∧ b ≤ high)) :
    step (.inside more low high value) b = (none :: (start b).1, (start b).2) := by
  simp only [step, if_neg h]

end

/-- Within a sequence, neither is the next byte an ASCII character, nor is what the sequence will
stand for. -/
def State.IsLong : State → Prop
  | .between => True
  | .inside more low _ value =>
    0x80 ≤ low ∧ 2 ≤ value * 64 + (low - 0x80) ∧ (more = 0 → 2 ≤ value)

/-- Between characters, a byte completes something or begins a long sequence. -/
lemma start_cases (b : Nat) :
    start b = ([some (Char.ofNat b)], .between) ∨ start b = ([none], .between) ∨
      ∃ more low high value, start b = ([], .inside more low high value) ∧
        (State.inside more low high value).IsLong := by
  unfold State.IsLong
  -- The branches are named first, so that they are not copied with every case.
  generalize hresult : start b = result
  unfold start at hresult
  repeat' split at hresult
  all_goals subst hresult
  · exact .inl rfl
  any_goals exact .inr (.inl rfl)
  all_goals exact .inr (.inr ⟨_, _, _, _, rfl, by omega⟩)

lemma isLong_step {state : State} (h : state.IsLong) (b : Nat) : (step state b).2.IsLong := by
  have hstart : (start b).2.IsLong := by
    obtain hb | hb | ⟨more, low, high, value, hb, hlong⟩ := start_cases b
    · rw [hb]
      trivial
    · rw [hb]
      trivial
    · rwa [hb]
  cases state with
  | between => exact hstart
  | inside more low high value =>
    obtain ⟨hlow, hvalue, -⟩ := h
    by_cases hfit : low ≤ b ∧ b ≤ high
    · cases more with
      | zero =>
        rw [step_inside_last hfit]
        trivial
      | succ more =>
        rw [step_inside_more hfit, State.IsLong]
        omega
    · rw [step_inside_unfit hfit]
      exact hstart

/-! ## Line feeds -/

lemma ofNat_ne_lineFeed {n : Nat} (h : n ≠ 10) : Char.ofNat n ≠ '\n' := by
  intro heq
  have hnat : (Char.ofNat n).toNat = 10 := by rw [heq]; rfl
  by_cases hvalid : n.isValidChar
  · have hchar : Char.ofNat n = Char.ofNatAux n hvalid := dif_pos hvalid
    rw [hchar] at hnat
    exact h hnat
  · have hchar : Char.ofNat n = '\x00' := dif_neg hvalid
    rw [hchar] at hnat
    cases hnat

/-- Between characters, only a line feed stands for one. -/
lemma not_mem_start {b : Nat} (h : b ≠ 10) : some '\n' ∉ (start b).1 := by
  obtain hb | hb | ⟨more, low, high, value, hb, -⟩ := start_cases b
  · simpa [hb] using (ofNat_ne_lineFeed h).symm
  · simp [hb]
  · simp [hb]

lemma not_mem_step {state : State} (hstate : state.IsLong) {b : Nat} (h : b ≠ 10) :
    some '\n' ∉ (step state b).1 := by
  cases state with
  | between => exact not_mem_start h
  | inside more low high value =>
    obtain ⟨-, -, hvalue⟩ := hstate
    by_cases hfit : low ≤ b ∧ b ≤ high
    · cases more with
      | zero =>
        have hlong : value * 64 + (b - 0x80) ≠ 10 := by
          have := hvalue rfl
          omega
        simpa [step_inside_last hfit] using (ofNat_ne_lineFeed hlong).symm
      | succ more => simp [step_inside_more hfit]
    · simpa [step_inside_unfit hfit] using not_mem_start h

/-- A line feed closes the sequence that it interrupts, as far as there is one. -/
lemma step_lineFeed {state : State} (h : state.IsLong) :
    step state 10 = (decodeFrom state [] ++ [some '\n'], .between) := by
  cases state with
  | between => rfl
  | inside more low high value =>
    have hunfit : ¬ (low ≤ 10 ∧ 10 ≤ high) := by
      have := h.1
      omega
    rw [step_inside_unfit hunfit]
    rfl

lemma decodeFrom_cons (state : State) (b : UInt8) (rest : List UInt8) :
    decodeFrom state (b :: rest) =
      (step state b.toNat).1 ++ decodeFrom (step state b.toNat).2 rest := by
  cases state <;> rfl

lemma decodeFrom_append_lineFeed {state : State} (h : state.IsLong) (line rest : List UInt8) :
    decodeFrom state (line ++ Source.lineFeed :: rest) =
      decodeFrom state line ++ some '\n' :: decode rest := by
  induction line generalizing state with
  | nil =>
    have hstep : step state Source.lineFeed.toNat =
        (decodeFrom state [] ++ [some '\n'], .between) :=
      step_lineFeed h
    rw [List.nil_append, decodeFrom_cons, hstep, List.append_assoc]
    rfl
  | cons b line ih =>
    rw [List.cons_append, decodeFrom_cons, decodeFrom_cons, ih (isLong_step h _),
      List.append_assoc]

lemma not_mem_decodeFrom {state : State} (h : state.IsLong) {line : List UInt8}
    (hline : Source.lineFeed ∉ line) : some '\n' ∉ decodeFrom state line := by
  induction line generalizing state with
  | nil => cases state <;> simp [decodeFrom]
  | cons b line ih =>
    rw [List.mem_cons, not_or] at hline
    have hb : b.toNat ≠ 10 := fun heq => hline.1 (UInt8.toNat_inj.1 heq).symm
    rw [decodeFrom_cons, List.mem_append, not_or]
    exact ⟨not_mem_step h hb, ih (isLong_step h _) hline.2⟩

/-- A sequence that has begun comes to something, be it ill-formed. -/
lemma decodeFrom_inside_ne_nil (more low high value : Nat) (bytes : List UInt8) :
    decodeFrom (.inside more low high value) bytes ≠ [] := by
  induction bytes generalizing more low high value with
  | nil => simp [decodeFrom]
  | cons b bytes ih =>
    rw [decodeFrom_cons]
    by_cases hfit : low ≤ b.toNat ∧ b.toNat ≤ high
    · cases more with
      | zero => simp [step_inside_last hfit]
      | succ more => simpa [step_inside_more hfit] using ih _ _ _ _
    · simp [step_inside_unfit hfit]

lemma decode_cons_ne_nil (b : UInt8) (bytes : List UInt8) : decode (b :: bytes) ≠ [] := by
  have hstep : step .between b.toNat = start b.toNat := rfl
  rw [decode, decodeFrom_cons, hstep]
  obtain hb | hb | ⟨more, low, high, value, hb, -⟩ := start_cases b.toNat
  · simp [hb]
  · simp [hb]
  · simp [hb, decodeFrom_inside_ne_nil]

/-! ## Lossy decoding -/

/-- **A line feed parts what is decoded.** -/
lemma decodeLossy_append_lineFeed (line rest : List UInt8) :
    decodeLossy (line ++ Source.lineFeed :: rest) =
      decodeLossy line ++ '\n' :: decodeLossy rest := by
  have hbetween : State.IsLong .between := trivial
  rw [decodeLossy, decode, decodeFrom_append_lineFeed hbetween, List.map_append, List.map_cons]
  rfl

/-- Nothing else is decoded as a line feed. -/
lemma not_mem_decodeLossy {line : List UInt8} (h : Source.lineFeed ∉ line) :
    '\n' ∉ decodeLossy line := by
  have hbetween : State.IsLong .between := trivial
  intro hmem
  obtain ⟨part, hpart, hchar⟩ := List.mem_map.1 hmem
  cases part with
  | none => exact absurd hchar (by decide)
  | some c =>
    obtain rfl : c = '\n' := hchar
    exact not_mem_decodeFrom hbetween h hpart

lemma decodeLossy_eq_nil_iff {bytes : List UInt8} : decodeLossy bytes = [] ↔ bytes = [] := by
  cases bytes with
  | nil => exact iff_of_true rfl rfl
  | cons b bytes =>
    refine iff_of_false (fun h => ?_) (List.cons_ne_nil _ _)
    exact decode_cons_ne_nil b bytes (List.map_eq_nil_iff.1 h)

end AssertionHeader.Text.Utf8
