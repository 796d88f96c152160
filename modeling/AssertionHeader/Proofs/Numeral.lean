import AssertionHeader.Numeral
import Mathlib.Data.List.Basic

/-!
# Digits and their values

What the digits of a numeral are, and that the digits of a number are read back as that number:
`ofDigits?_toDigits`, for every base up to sixteen.  A decimal rendering has no leading zero, so
that it is taken for a decimal numeral again (`splitBase_toDigits`).
-/

namespace AssertionHeader.Numeral

/-! ## The characters of a numeral -/

lemma digit?_isSome_of_continueDigits? {base value n : Nat} {digits : List Char}
    (h : continueDigits? base value digits = some n) : ∀ c ∈ digits, (digit? c).isSome = true := by
  induction digits generalizing value with
  | nil => simp
  | cons c rest ih =>
    simp only [continueDigits?, Option.bind_eq_some_iff, digitBelow?,
      Option.filter_eq_some_iff] at h
    obtain ⟨d, ⟨hd, -⟩, hrest⟩ := h
    simp only [List.mem_cons, forall_eq_or_imp, hd, Option.isSome_some, true_and]
    exact ih hrest

/-- Before its digits a numeral has at most the mark of its base. -/
lemma mark_append_digits (text : List Char) :
    ∃ mark ∈ [[], ['0'], ['0', 'x'], ['0', 'b']], text = mark ++ (splitBase text).2 := by
  unfold splitBase
  split <;> simp

/-- Apart from the letter `x` of a hexadecimal one, a numeral consists of digits.  This holds of
numerals for too large numbers as well. -/
lemma digit_or_x_of_ofDigits? {text : List Char} {n : Nat}
    (h : ofDigits? (splitBase text).1 (splitBase text).2 = some n) :
    ∀ c ∈ text, (digit? c).isSome = true ∨ c = 'x' := by
  obtain ⟨mark, hmark, heq⟩ := mark_append_digits text
  have hmarks : ∀ m ∈ [[], ['0'], ['0', 'x'], ['0', 'b']],
      (m.all fun c => (digit? c).isSome || c == 'x') = true := by
    decide
  intro c hc
  rw [heq] at hc
  rcases List.mem_append.1 hc with hc | hc
  · simpa using List.all_eq_true.1 (hmarks mark hmark) c hc
  · cases hlist : (splitBase text).2 with
    | nil => simp [hlist] at hc
    | cons d rest =>
      rw [hlist] at h hc
      exact .inl (digit?_isSome_of_continueDigits? h c hc)

lemma digit_or_x_of_value? {text : List Char} {n : Nat} (h : value? text = some n) :
    ∀ c ∈ text, (digit? c).isSome = true ∨ c = 'x' :=
  digit_or_x_of_ofDigits? (Option.filter_eq_some_iff.1 h).1

/-! ## Reading a rendered number -/

lemma digit?_digitChar : ∀ d < 16, digit? (Nat.digitChar d) = some d := by
  decide

lemma continueDigits?_append {base value : Nat} (first second : List Char) :
    continueDigits? base value (first ++ second) =
      (continueDigits? base value first).bind fun v => continueDigits? base v second := by
  induction first generalizing value with
  | nil => rfl
  | cons c rest ih => simp [continueDigits?, Option.bind_assoc, ih]

lemma continueDigits?_toDigits {base : Nat} (hlow : 1 < base) (hhigh : base ≤ 16) (n : Nat) :
    continueDigits? base 0 (Nat.toDigits base n) = some n := by
  induction n using Nat.strongRecOn with
  | ind n ih =>
    have hdigit : ∀ d < base, ∀ v,
        continueDigits? base v [Nat.digitChar d] = some (base * v + d) := by
      intro d hd v
      have hvalue : digitBelow? base (Nat.digitChar d) = some d := by
        rw [digitBelow?, digit?_digitChar d (Nat.lt_of_lt_of_le hd hhigh)]
        exact Option.filter_eq_some_iff.2 ⟨rfl, by simpa using hd⟩
      simp [continueDigits?, hvalue]
    by_cases hn : n < base
    · rw [Nat.toDigits_of_lt_base hn, hdigit n hn, Nat.mul_zero, Nat.zero_add]
    · have hle : base ≤ n := Nat.le_of_not_lt hn
      rw [Nat.toDigits_of_base_le hlow hle, continueDigits?_append,
        ih (n / base) (Nat.div_lt_self (by omega) hlow)]
      have hmod : n % base < base := Nat.mod_lt _ (by omega)
      simpa [Nat.toDigits_of_lt_base hmod, Nat.div_add_mod] using hdigit _ hmod (n / base)

lemma digit?_isSome_of_mem_toDigits {n : Nat} {c : Char} (h : c ∈ Nat.toDigits 10 n) :
    (digit? c).isSome = true :=
  digit?_isSome_of_continueDigits? (continueDigits?_toDigits (by decide) (by decide) n) c h

/-- The digits of a number denote it. -/
lemma ofDigits?_toDigits {base : Nat} (hlow : 1 < base) (hhigh : base ≤ 16) (n : Nat) :
    ofDigits? base (Nat.toDigits base n) = some n := by
  have h := continueDigits?_toDigits hlow hhigh n
  cases hdigits : Nat.toDigits base n with
  | nil => exact absurd hdigits Nat.toDigits_ne_nil
  | cons c rest => rwa [hdigits] at h

/-- A rendering has a leading zero only if it is `0`. -/
lemma head?_toDigits_ne_zero {base n : Nat} (hlow : 1 < base) (hhigh : base ≤ 16) (hn : 0 < n) :
    (Nat.toDigits base n).head? ≠ some '0' := by
  induction n using Nat.strongRecOn with
  | ind n ih =>
    by_cases hlt : n < base
    · have hzero : ∀ d < 16, Nat.digitChar d = '0' → d = 0 := by decide
      rw [Nat.toDigits_of_lt_base hlt, List.head?_cons]
      intro h
      exact absurd (hzero n (by omega) (Option.some.inj h)) (by omega)
    · have hle : base ≤ n := Nat.le_of_not_lt hlt
      rw [Nat.toDigits_of_base_le hlow hle, List.head?_append_of_ne_nil _ Nat.toDigits_ne_nil]
      exact ih (n / base) (Nat.div_lt_self hn hlow) (Nat.div_pos hle (by omega))

/-- A decimal rendering is taken for a decimal numeral. -/
lemma splitBase_toDigits (n : Nat) :
    splitBase (Nat.toDigits 10 n) = (10, Nat.toDigits 10 n) := by
  rcases Nat.eq_zero_or_pos n with rfl | hn
  · rfl
  · have hhead : (Nat.toDigits 10 n).head? ≠ some '0' :=
      head?_toDigits_ne_zero (by decide) (by decide) hn
    unfold splitBase
    split <;> simp_all

end AssertionHeader.Numeral
