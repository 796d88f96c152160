import AssertionHeader.Proofs.Denotation

/-!
# No rule and no ending has priority

A condition is read by the first rule that accepts its spelling, and the relation at the end of a
text by the first ending that closes it.  Neither list needs its order.  A rule accepts only what
spells a sense that it is for (`Sense.place`), and no text spells two senses; no ending stands at
the end of another.  So at most one rule accepts a text and at most one ending closes it, and where
at most one member of a list has a result, the first result does not depend on the order
(`findSome?_eq_of_perm`).

`Reading.rules_unordered` says this of both lists at once: since the rule for orders looks up the
endings, it is taken with any table of them (`orderRuleBy`).  It also says what keeps that rule
apart from the others.  No word of the vocabulary ends in a relation, and no numeral of any base
does, although a hexadecimal one may end in `E`.
-/

namespace AssertionHeader

/-! ## The first result of a list -/

section

variable {α β : Type}

lemma countP_le_one_of_pairwise {p : α → Bool} {l : List α}
    (h : l.Pairwise fun a b => ¬ (p a = true ∧ p b = true)) : l.countP p ≤ 1 := by
  induction h with
  | nil => exact Nat.zero_le 1
  | @cons a l ha _ ih =>
    by_cases hp : p a = true
    · have hzero : l.countP p = 0 := List.countP_eq_zero.2 fun b hb hpb => ha b hb ⟨hp, hpb⟩
      rw [List.countP_cons_of_pos hp, hzero]
    · rwa [List.countP_cons_of_neg hp]

/-- If at most one member of a list has a result, then the first result does not depend on the
order of the list. -/
lemma findSome?_eq_of_perm {f : α → Option β} {l l' : List α} (hperm : l'.Perm l)
    (hone : l.countP (fun a => (f a).isSome) ≤ 1) : l'.findSome? f = l.findSome? f := by
  have hresults : (l'.filterMap f).Perm (l.filterMap f) := hperm.filterMap f
  rw [← List.length_filterMap_eq_countP] at hone
  rw [← List.head?_filterMap, ← List.head?_filterMap]
  match hlist : l.filterMap f with
  | [] =>
    rw [hlist] at hresults
    rw [hresults.eq_nil]
  | [b] =>
    rw [hlist] at hresults
    rw [List.perm_singleton.1 hresults]
  | _ :: _ :: _ =>
    rw [hlist, List.length_cons, List.length_cons] at hone
    omega

end

/-! ## Endings -/

namespace Relation

lemma nodup_endings : endings.Nodup := by
  decide

lemma countP_endings_le_one (text : List Char) :
    endings.countP (fun entry => entry.1.toList.isSuffixOf text) ≤ 1 := by
  refine countP_le_one_of_pairwise (nodup_endings.imp_of_mem ?_)
  rintro a b ha hb hne ⟨haclose, hbclose⟩
  rw [List.isSuffixOf_iff_suffix] at haclose hbclose
  exact hne (eq_of_both_close ha hb haclose hbclose)

/-- A text may be split by the endings in any order. -/
lemma splitBy?_eq_of_perm {table : List (String × Relation)} (hperm : table.Perm endings)
    (text : List Char) : splitBy? table text = splitEnding? text := by
  refine findSome?_eq_of_perm hperm ?_
  simpa only [Option.isSome_map, List.isSome_isSuffixOf?_eq_isSuffixOf] using
    countP_endings_le_one text

lemma splitEnding?_eq_none_iff {text : List Char} :
    splitEnding? text = none ↔ ∀ entry ∈ endings, ¬ entry.1.toList <:+ text := by
  rw [splitEnding?, splitBy?, List.findSome?_eq_none_iff]
  refine forall₂_congr fun entry _ => ?_
  rw [Option.map_eq_none_iff, ← List.isSuffixOf_iff_suffix,
    ← List.isSome_isSuffixOf?_eq_isSuffixOf, Option.not_isSome_iff_eq_none]

end Relation

lemma Numeral.IsNumeral.digit_or_x {text : List Char} {n : Nat} (h : IsNumeral text n) :
    ∀ c ∈ text, (digit? c).isSome = true ∨ c = 'x' :=
  digit_or_x_of_ofDigits? (ofDigits?_eq_some_iff.2 (isNumeral_iff.1 h))

/-! ## Rules -/

namespace Reading

/-- The rule for orders with a table of endings. -/
def orderRuleBy (table : List (String × Relation)) : Rule := fun spelling inverts =>
  (Relation.splitBy? table spelling).bind fun (front, relation) =>
    (operandType? front).map fun operandType =>
      ⟨.order relation, inverts != relation.isNegated, operandType⟩

/-- The rules, the last of which, for orders, has a table of endings. -/
def rulesBy (table : List (String × Relation)) : List Rule :=
  rules.dropLast ++ [orderRuleBy table]

lemma rulesBy_endings : rulesBy Relation.endings = rules :=
  rfl

lemma rulesBy_eq_of_perm {table : List (String × Relation)} (hperm : table.Perm Relation.endings) :
    rulesBy table = rules := by
  have hrule : orderRuleBy table = orderRuleBy Relation.endings := by
    funext spelling inverts
    rw [orderRuleBy, Relation.splitBy?_eq_of_perm hperm]
    rfl
  rw [rulesBy, hrule]
  exact rulesBy_endings

/-- Rules that accept the same text are for the same sense, so that they are one rule. -/
lemma countP_rules_le_one (text : List Char) (inverts : Bool) :
    rules.countP (fun rule => (rule text inverts).isSome) ≤ 1 := by
  refine countP_le_one_of_pairwise (List.pairwise_iff_getElem.2 ?_)
  rintro i j hi hj hlt ⟨hacceptI, hacceptJ⟩
  obtain ⟨reading, hreading⟩ := Option.isSome_iff_exists.1 hacceptI
  obtain ⟨reading', hreading'⟩ := Option.isSome_iff_exists.1 hacceptJ
  obtain ⟨sense, hspells, -, hplace⟩ :=
    spells_of_getElem?_rules (List.getElem?_eq_getElem hi) hreading
  obtain ⟨sense', hspells', -, hplace'⟩ :=
    spells_of_getElem?_rules (List.getElem?_eq_getElem hj) hreading'
  obtain rfl := hspells.unique hspells'
  omega

/-- What any rule reads is what is read. -/
lemma ofSpelling?_of_mem_rules {rule : Rule} (hrule : rule ∈ rules) {text : List Char}
    {inverts : Bool} {reading : Reading} (h : rule text inverts = some reading) :
    ofSpelling? text inverts = some reading :=
  ofSpelling?_eq_some_iff.2 (spells_of_mem_rules hrule h)

/-- Words and numerals end in no relation. -/
lemma splitEnding?_of_word_or_numeral {text : List Char}
    (h : String.ofList text ∈ words ∨ ∃ n, Numeral.IsNumeral text n) :
    Relation.splitEnding? text = none := by
  rcases h with hword | ⟨n, hnumeral⟩
  · simpa using splitEnding?_word _ hword
  · exact Numeral.splitEnding?_eq_none hnumeral.digit_or_x

/-- **No rule and no ending has priority.**  At most one rule accepts a text, and at most one ending
closes it.  Therefore the endings may be put in any order without a change to how texts are split,
and both the endings and the rules in any order without a change to what is read.  No rule is
shadowed: what it reads is read.  In particular no word of the vocabulary ends in a relation, nor
does any numeral, of whatever base and for however large a number; so neither names an order. -/
theorem rules_unordered (text : List Char) (inverts : Bool) :
    rules.countP (fun rule => (rule text inverts).isSome) ≤ 1 ∧
      Relation.endings.countP (fun entry => entry.1.toList.isSuffixOf text) ≤ 1 ∧
      (∀ table, table.Perm Relation.endings →
        Relation.splitBy? table text = Relation.splitEnding? text ∧
          ∀ ordered, ordered.Perm (rulesBy table) →
            byRules? ordered text inverts = ofSpelling? text inverts) ∧
      (∀ rule ∈ rules, ∀ reading, rule text inverts = some reading →
        ofSpelling? text inverts = some reading) ∧
      (String.ofList text ∈ words ∨ (∃ n, Numeral.IsNumeral text n) →
        (∀ entry ∈ Relation.endings, ¬ entry.1.toList <:+ text) ∧
          orderRule text inverts = none) := by
  refine ⟨countP_rules_le_one text inverts, Relation.countP_endings_le_one text, ?_,
    fun rule hrule reading h => ofSpelling?_of_mem_rules hrule h, ?_⟩
  · intro table htable
    refine ⟨Relation.splitBy?_eq_of_perm htable text, fun ordered hordered => ?_⟩
    rw [rulesBy_eq_of_perm htable] at hordered
    exact findSome?_eq_of_perm hordered (countP_rules_le_one text inverts)
  · intro h
    have hnone : Relation.splitEnding? text = none := splitEnding?_of_word_or_numeral h
    refine ⟨Relation.splitEnding?_eq_none_iff.1 hnone, ?_⟩
    rw [orderRule, hnone]
    rfl

/-- A hexadecimal numeral may end in the last letter of a relation. -/
theorem rules_unordered_hexadecimal :
    let table := Relation.endings.reverse
    let ordered := (rulesBy table).reverse
    let reading := plain (.literal 14 .equal) false
    table.Perm Relation.endings ∧ ordered.Perm (rulesBy table) ∧
      literalRule ∈ rules ∧ literalRule "0xE".toList false = some reading ∧
      Numeral.IsNumeral "0xE".toList 14 ∧
      byRules? ordered "0xE".toList false = some reading ∧
      orderRule "0xE".toList false = none := by
  intro table ordered reading
  have htable : table.Perm Relation.endings := List.reverse_perm _
  have hordered : ordered.Perm (rulesBy table) := List.reverse_perm _
  have hrule : literalRule ∈ rules := by simp [rules]
  have hreading : literalRule "0xE".toList false = some reading := by decide
  have hnumeral : Numeral.IsNumeral "0xE".toList 14 :=
    (Numeral.value?_eq_some_iff.1 (by decide)).1
  obtain ⟨-, -, hperm, hread, hnone⟩ := rules_unordered "0xE".toList false
  refine ⟨htable, hordered, hrule, hreading, hnumeral, ?_, (hnone (.inr ⟨14, hnumeral⟩)).2⟩
  rw [(hperm table htable).2 ordered hordered, hread literalRule hrule reading hreading]

end Reading

end AssertionHeader
