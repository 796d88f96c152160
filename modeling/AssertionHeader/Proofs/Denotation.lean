import AssertionHeader.Expression
import AssertionHeader.Proofs.Grammar
import Mathlib.Data.List.Forall2
import Mathlib.Data.Nat.Digits.Defs

/-!
# Numerals and the numbers that they denote

`Numeral.IsNumeral text n` says which texts are numerals and which number each denotes, by the mark
of its base and by the positional system; there is no limit to digits or numbers.  A numeral is read
as the number that it denotes unless that is too large, and no other text is read
(`value?_eq_some_iff`).  The reader multiplies and adds digit by digit, while the number is a sum
over all digits with the last one first, so the two are compared by a fold over their values.

In a macro name a numeral stands behind a polarity.  The test of such a macro has the number as its
only trace of the numeral (`NamesNumber.exists_decode`).
-/

namespace AssertionHeader

namespace Numeral

/-! ## Digits -/

/-- The character is the digit of this value, which is its place among all digits.  Letters may be
of either case. -/
def IsDigit (c : Char) (d : Nat) : Prop :=
  "0123456789abcdef".toList[d]? = some c ∨ "0123456789ABCDEF".toList[d]? = some c

/-- The digits denote the number in the given base; the first of them counts most. -/
structure Denotes (base : Nat) (digits : List Char) (n : Nat) : Prop where
  ne_nil : digits ≠ []
  ofDigits : ∃ values, List.Forall₂ IsDigit digits values ∧ (∀ d ∈ values, d < base) ∧
    Nat.ofDigits base values.reverse = n

/-- The text is a numeral for the number.  A decimal one has no leading zero. -/
inductive IsNumeral : List Char → Nat → Prop where
  | hexadecimal {digits : List Char} {n : Nat} (h : Denotes 16 digits n) :
      IsNumeral ("0x".toList ++ digits) n
  | binary {digits : List Char} {n : Nat} (h : Denotes 2 digits n) :
      IsNumeral ("0b".toList ++ digits) n
  | octal {digits : List Char} {n : Nat} (h : Denotes 8 digits n) :
      IsNumeral ("0".toList ++ digits) n
  | decimal {digits : List Char} {n : Nat} (h : Denotes 10 digits n)
      (hzero : digits.head? = some '0' → digits = "0".toList) : IsNumeral digits n

lemma digit?_of_isDigit {c : Char} {d : Nat} (h : IsDigit c d) : digit? c = some d := by
  have htable : ∀ d < 16, ("0123456789abcdef".toList[d]?).bind digit? = some d ∧
      ("0123456789ABCDEF".toList[d]?).bind digit? = some d := by
    decide
  have hplace : d < 16 := by
    rcases h with h | h <;> exact (List.getElem?_eq_some_iff.1 h).1
  rcases h with h | h
  · have hread := (htable d hplace).1
    rwa [h, Option.bind_some] at hread
  · have hread := (htable d hplace).2
    rwa [h, Option.bind_some] at hread

/-- Characters in a row that are digits of successive values. -/
lemma isDigit_of_range {first last c : Char} {low : Nat} (h : first ≤ c ∧ c ≤ last)
    (hrow : ∀ i ≤ last.toNat - first.toNat, IsDigit (Char.ofNat (first.toNat + i)) (i + low)) :
    IsDigit c (c.toNat - first.toNat + low) := by
  have hfirst : first.toNat ≤ c.toNat := h.1
  have hlast : c.toNat ≤ last.toNat := h.2
  have hdigit := hrow (c.toNat - first.toNat) (by omega)
  rwa [Nat.add_sub_cancel' hfirst, Char.ofNat_toNat] at hdigit

lemma isDigit_of_digit? {c : Char} {d : Nat} (h : digit? c = some d) : IsDigit c d := by
  unfold digit? at h
  split at h
  · next hrange =>
    obtain rfl := Option.some.inj h
    exact @isDigit_of_range '0' '9' c 0 hrange (by unfold IsDigit; decide)
  · split at h
    · next hrange =>
      obtain rfl := Option.some.inj h
      exact @isDigit_of_range 'a' 'f' c 10 hrange (by unfold IsDigit; decide)
    · split at h
      · next hrange =>
        obtain rfl := Option.some.inj h
        exact @isDigit_of_range 'A' 'F' c 10 hrange (by unfold IsDigit; decide)
      · cases h

lemma digit?_eq_some_iff {c : Char} {d : Nat} : digit? c = some d ↔ IsDigit c d :=
  ⟨isDigit_of_digit?, digit?_of_isDigit⟩

/-! ## Digit strings -/

/-- The number that digits continue is a fold over their values. -/
lemma continueDigits?_eq_some_iff {base value n : Nat} {digits : List Char} :
    continueDigits? base value digits = some n ↔
      ∃ values, List.Forall₂ IsDigit digits values ∧ (∀ d ∈ values, d < base) ∧
        values.foldl (fun v d => base * v + d) value = n := by
  induction digits generalizing value with
  | nil => simp [continueDigits?, List.forall₂_nil_left_iff]
  | cons c rest ih =>
    simp only [continueDigits?, digitBelow?, Option.bind_eq_some_iff, Option.filter_eq_some_iff,
      digit?_eq_some_iff, decide_eq_true_eq, ih]
    constructor
    · rintro ⟨d, ⟨hd, hlt⟩, values, hvalues, hbelow, hn⟩
      exact ⟨d :: values, .cons hd hvalues, List.forall_mem_cons.2 ⟨hlt, hbelow⟩, hn⟩
    · rintro ⟨_, hvalues, hbelow, hn⟩
      cases hvalues with
      | @cons _ d _ values hd hrest =>
        rw [List.forall_mem_cons] at hbelow
        exact ⟨d, ⟨hd, hbelow.1⟩, values, hrest, hbelow.2, hn⟩

lemma foldl_eq_ofDigits (base : Nat) (values : List Nat) :
    values.foldl (fun v d => base * v + d) 0 = Nat.ofDigits base values.reverse := by
  rw [Nat.ofDigits_eq_foldr, List.foldr_reverse]
  congr 1
  funext v d
  rw [Nat.add_comm]
  rfl

/-- The digits that are read are those that denote a number. -/
lemma ofDigits?_eq_some_iff {base n : Nat} {digits : List Char} :
    ofDigits? base digits = some n ↔ Denotes base digits n := by
  cases digits with
  | nil =>
    constructor
    · intro h
      cases h
    · intro h
      exact absurd rfl h.ne_nil
  | cons c rest =>
    change continueDigits? base 0 (c :: rest) = some n ↔ _
    rw [continueDigits?_eq_some_iff]
    simp only [foldl_eq_ofDigits]
    exact ⟨fun h => ⟨List.cons_ne_nil _ _, h⟩, fun h => h.ofDigits⟩

/-- A number is denoted by its digits. -/
lemma Denotes.toDigits {base : Nat} (hlow : 1 < base) (hhigh : base ≤ 16) (n : Nat) :
    Denotes base (Nat.toDigits base n) n :=
  ofDigits?_eq_some_iff.1 (ofDigits?_toDigits hlow hhigh n)

/-- Different numbers are written differently. -/
lemma toString_injective : Function.Injective (toString : Nat → String) := by
  intro m n h
  have hdigits : Nat.toDigits 10 m = Nat.toDigits 10 n := String.ofList_injective h
  have hread := ofDigits?_toDigits (by decide) (by decide : 10 ≤ 16) m
  rw [hdigits, ofDigits?_toDigits (by decide) (by decide)] at hread
  exact (Option.some.inj hread).symm

/-- The first digit has a value below the base. -/
lemma Denotes.exists_cons {base n : Nat} {digits : List Char} (h : Denotes base digits n) :
    ∃ c rest d, digits = c :: rest ∧ digit? c = some d ∧ d < base := by
  obtain ⟨hne, values, hvalues, hbelow, -⟩ := h
  cases hvalues with
  | nil => exact absurd rfl hne
  | cons hd _ =>
    exact ⟨_, _, _, rfl, digit?_of_isDigit hd, hbelow _ List.mem_cons_self⟩

/-! ## Numerals -/

/-- A numeral is cut behind the mark of its base. -/
lemma isNumeral_iff {text : List Char} {n : Nat} :
    IsNumeral text n ↔ Denotes (splitBase text).1 (splitBase text).2 n := by
  constructor
  · intro h
    cases h with
    | hexadecimal h | binary h => exact h
    | octal h =>
      obtain ⟨c, rest, d, rfl, hd, hlt⟩ := h.exists_cons
      -- The mark of another base is no octal digit.
      have hx : c ≠ 'x' := by
        have hmark : digit? 'x' = none := by decide
        rintro rfl
        rw [hmark] at hd
        cases hd
      have hb : c ≠ 'b' := by
        have hmark : digit? 'b' = some 11 := by decide
        rintro rfl
        rw [hmark, Option.some.injEq] at hd
        omega
      have hsplit : splitBase ("0".toList ++ c :: rest) = (8, c :: rest) := by
        simp [splitBase]
      rwa [hsplit]
    | decimal h hzero =>
      have hsplit : splitBase text = (10, text) := by
        by_cases hhead : text.head? = some '0'
        · rw [hzero hhead]
          rfl
        · unfold splitBase
          split <;> simp_all
      rwa [hsplit]
  · intro h
    unfold splitBase at h
    split at h
    · exact .hexadecimal h
    · exact .binary h
    · exact .octal h
    · next digits _ _ hzero =>
      refine .decimal h fun hhead => ?_
      obtain ⟨rest, rfl⟩ := List.head?_eq_some_iff.1 hhead
      cases rest with
      | nil => rfl
      | cons d rest => exact absurd rfl (hzero d rest)

/-- A text is read as a number exactly if it is a numeral for it and the number is not too large. -/
lemma value?_eq_some_iff {text : List Char} {n : Nat} :
    value? text = some n ↔ IsNumeral text n ∧ n < 2 ^ 64 := by
  rw [value?, Option.filter_eq_some_iff, ofDigits?_eq_some_iff, isNumeral_iff, decide_eq_true_eq]
  rfl

lemma value?_eq_none_iff {text : List Char} :
    value? text = none ↔ ∀ n, IsNumeral text n → 2 ^ 64 ≤ n := by
  simp only [Option.eq_none_iff_forall_ne_some, ne_eq, value?_eq_some_iff, not_and, Nat.not_lt]

/-- The digits of a number behind the mark of their base are a numeral for it. -/
lemma isNumeral_toDigits (n : Nat) :
    IsNumeral ("0x".toList ++ Nat.toDigits 16 n) n ∧ IsNumeral ("0b".toList ++ Nat.toDigits 2 n) n ∧
      IsNumeral ("0".toList ++ Nat.toDigits 8 n) n ∧ IsNumeral (Nat.toDigits 10 n) n := by
  refine ⟨.hexadecimal (.toDigits (by decide) (by decide) n),
    .binary (.toDigits (by decide) (by decide) n), .octal (.toDigits (by decide) (by decide) n),
    .decimal (.toDigits (by decide) (by decide) n) fun hhead => ?_⟩
  rcases Nat.eq_zero_or_pos n with rfl | hn
  · rfl
  · exact absurd hhead (head?_toDigits_ne_zero (by decide) (by decide) hn)

end Numeral

/-! ## Names with numerals -/

/-- The token is a polarity, an underscore or none, and a numeral for the number. -/
structure NamesNumber (token : String) (polarity : Polarity) (n : Nat) : Prop where
  cut : ∃ separator ∈ ["", "_"], ∃ numeral : String,
    token = polarity.spelling ++ separator ++ numeral ∧ Numeral.IsNumeral numeral.toList n
  lt : n < 2 ^ 64

/-- No polarity of a longer spelling opens a text behind whose polarity no `_not` stands. -/
lemma Polarity.opensLongest_append {polarity : Polarity} {rest : List Char}
    (h : ¬ "_not".toList <+: rest) : polarity.OpensLongest (polarity.spelling.toList ++ rest) := by
  refine ⟨List.prefix_append _ _, fun other hother => ?_⟩
  rcases eq_or_of_both_open (List.prefix_append _ _) hother with rfl | ⟨rfl, rfl⟩ | ⟨rfl, rfl⟩
  · exact Nat.le_refl _
  · have hnot : assertNot.spelling.toList = assert.spelling.toList ++ "_not".toList := by decide
    rw [hnot, List.prefix_append_right_inj] at hother
    exact absurd hother h
  · decide

namespace NamesNumber

variable {token token' : String} {polarity : Polarity} {n n' : Nat}

lemma exists_names (h : NamesNumber token polarity n) :
    ∃ spelling, Names token.toList polarity spelling (.number n) := by
  obtain ⟨separator, hseparator, numeral, rfl, hnumeral⟩ := h.cut
  have hvalue := Numeral.value?_eq_some_iff.2 ⟨hnumeral, h.lt⟩
  have hlacks : '_' ∉ numeral.toList ∧ 'n' ∉ numeral.toList := by
    have hdigits := Numeral.digit_or_x_of_value? hvalue
    exact ⟨fun hmem => absurd (hdigits _ hmem) (by decide),
      fun hmem => absurd (hdigits _ hmem) (by decide)⟩
  refine ⟨numeral.toList, ?_, ?_, .numeral hvalue⟩
  · rw [String.append_assoc, String.toList_append]
    refine Polarity.opensLongest_append fun hnot => ?_
    -- A numeral has neither the underscore nor the letters of `_not`.
    have hmem : 'n' ∈ (separator ++ numeral).toList := hnot.subset (by decide)
    have hseparators : ∀ text ∈ ["", "_"], 'n' ∉ text.toList := by decide
    rw [String.toList_append, List.mem_append] at hmem
    exact hmem.elim (hseparators separator hseparator) hlacks.2
  · rcases List.mem_pair.1 hseparator with rfl | rfl
    · exact .inr ⟨by simp, fun hhead => hlacks.1 (List.mem_of_head? hhead)⟩
    · exact .inl (by simp)

/-- The macro compares its operand with the number; of the numeral nothing else is left. -/
lemma exists_decode (h : NamesNumber token polarity n) :
    ∃ a, Name.decode token = .assertion a ∧ ∀ settings,
      (a.expression settings).text =
        "(expr) " ++ (Equality.ofInvert polarity.inverts).symbol ++ " " ++ toString n := by
  obtain ⟨spelling, hnames⟩ := h.exists_names
  exact ⟨_, Name.decode_of_names hnames, fun settings => rfl⟩

end NamesNumber

/-- **Numerals denote numbers.**  A text is read as a number exactly if it is a numeral for that
number, in the positional system of its base, and the number is below `2 ^ 64`; otherwise it is not
read at all.  So each such number is read back from its digits in all four bases, and two macros of
one polarity that are named by numerals make the same test exactly if the numerals denote the same
number. -/
theorem Numeral.value_denoted :
    (∀ text n, value? text = some n ↔ IsNumeral text n ∧ n < 2 ^ 64) ∧
      (∀ text, value? text = none ↔ ∀ n, IsNumeral text n → 2 ^ 64 ≤ n) ∧
      (∀ n < 2 ^ 64,
        ∀ mark ∈ [("0x", 16), ("0b", 2), ("0", 8), ("", 10)],
          value? (mark.1.toList ++ Nat.toDigits mark.2 n) = some n) ∧
      ∀ polarity token token' n n',
        NamesNumber token polarity n → NamesNumber token' polarity n' →
          ∃ a a', Name.decode token = .assertion a ∧ Name.decode token' = .assertion a' ∧
            ∀ settings,
              (a.expression settings).text = (a'.expression settings).text ↔ n = n' := by
  refine ⟨fun _ _ => value?_eq_some_iff, fun _ => value?_eq_none_iff, fun n hn mark hmark => ?_,
    fun polarity token token' n n' h h' => ?_⟩
  · obtain ⟨hhexadecimal, hbinary, hoctal, hdecimal⟩ := isNumeral_toDigits n
    refine value?_eq_some_iff.2 ⟨?_, hn⟩
    simp only [List.mem_cons, List.not_mem_nil, or_false] at hmark
    rcases hmark with rfl | rfl | rfl | rfl
    · exact hhexadecimal
    · exact hbinary
    · exact hoctal
    · exact hdecimal
  · obtain ⟨a, hdecode, htext⟩ := h.exists_decode
    obtain ⟨a', hdecode', htext'⟩ := h'.exists_decode
    refine ⟨a, a', hdecode, hdecode', fun settings => ?_⟩
    rw [htext, htext', String.append_right_inj]
    exact toString_injective.eq_iff

theorem Numeral.value_denoted_sixteen :
    IsNumeral "0x10".toList 16 ∧ IsNumeral "16".toList 16 ∧
      (2 : Nat) ^ 64 - 1 < 2 ^ 64 ∧
      value? ("0b".toList ++ Nat.toDigits 2 (2 ^ 64 - 1)) = some (2 ^ 64 - 1) ∧
      NamesNumber "Assert_0x10" .assert 16 ∧ NamesNumber "Assert16" .assert 16 ∧
      ∃ a a', Name.decode "Assert_0x10" = .assertion a ∧ Name.decode "Assert16" = .assertion a' ∧
        ∀ settings, (a.expression settings).text = (a'.expression settings).text := by
  obtain ⟨hread, -, hback, hnames⟩ := Numeral.value_denoted
  have hhexadecimal := ((hread "0x10".toList 16).1 (by decide)).1
  have hdecimal := ((hread "16".toList 16).1 (by decide)).1
  have hlast : (2 : Nat) ^ 64 - 1 < 2 ^ 64 := by decide
  have hfirst : NamesNumber "Assert_0x10" .assert 16 :=
    ⟨⟨"_", by decide, "0x10", by decide, hhexadecimal⟩, by decide⟩
  have hsecond : NamesNumber "Assert16" .assert 16 :=
    ⟨⟨"", by decide, "16", by decide, hdecimal⟩, by decide⟩
  obtain ⟨a, a', hdecode, hdecode', htext⟩ := hnames _ _ _ _ _ hfirst hsecond
  exact ⟨hhexadecimal, hdecimal, hlast, hback _ hlast ("0b", 2) (by decide), hfirst, hsecond, a, a',
    hdecode, hdecode', fun settings => (htext settings).2 rfl⟩

end AssertionHeader
