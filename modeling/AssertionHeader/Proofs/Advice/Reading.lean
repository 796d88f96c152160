import AssertionHeader.Proofs.Advice
import AssertionHeader.Proofs.Meaning.Code
import AssertionHeader.Proofs.Recognition

/-!
# Reading the note of a header

The entries of a note stand one below the other with nothing between them, and an entry has one line
or two.  `NoteEntry.ofText?` reads a note entry by entry.  It knows a macro that is listed by its
name from one that is listed by a signature, and it takes the line below for users or for the next
entry by what it opens with.

`Header.ofText?_advice` says that nothing is lost: if macros and users have the names of macros in
C, the reader finds all of them again, in their order.
-/

namespace AssertionHeader

/-- What a note says of one macro. -/
structure NoteEntry where
  name : String
  /-- The type of the operands in the signature, if the macro is listed with one. -/
  operandType : Option String
  users : List String
  deriving DecidableEq, Repr

namespace NoteEntry

/-! ## The reader -/

def signatureLine (name operandType : String) : String :=
  " *   int " ++ name ++ "(" ++ operandType ++ " a, " ++ operandType ++ " b);"

/-- The line on the calls of a macro, up to the users. -/
def callLine (name operandType : String) : String :=
  " *       called as " ++ name ++ "(" ++ operandType ++ "1," ++ operandType ++ "2)"

/-- The macro that is listed by nothing but its name. -/
def bareName? (line : String) : Option String :=
  (" *   ".toList.isPrefixOf? line.toList).bind fun name =>
    if Identifier.isIdentifier name then some (String.ofList name) else none

/-- The users of a macro that is listed by its name. -/
def requiredBy? (line : String) : Option (List String) :=
  (" *       required by ".toList.isPrefixOf? line.toList).map Text.commaSeparated

/-- The name and the operand type in a signature. -/
def declared? (line : String) : Option (String × String) :=
  (" *   int ".toList.isPrefixOf? line.toList).bind fun text =>
    (Identifier.readUpTo? '(' text).bind fun (name, text) =>
      (Identifier.readUpTo? ' ' text).bind fun (operandType, _) =>
        if line = signatureLine name operandType then some (name, operandType) else none

/-- The users of a macro that is listed by its signature. -/
def calledBy? (name operandType line : String) : Option (List String) :=
  ((callLine name operandType).toList.isPrefixOf? line.toList).bind fun text =>
    if text.isEmpty then some [] else (" by ".toList.isPrefixOf? text).map Text.commaSeparated

/-- The entries on the lines of a note, up to the one that closes it. -/
def ofLines? : List String → Option (List NoteEntry)
  | first :: second :: rest =>
    match bareName? first with
    | some name =>
      match requiredBy? second with
      | some users => (ofLines? rest).map (⟨name, none, users⟩ :: ·)
      | none => (ofLines? (second :: rest)).map (⟨name, none, []⟩ :: ·)
    | none =>
      match declared? first with
      | some (name, operandType) =>
        (calledBy? name operandType second).bind fun users =>
          (ofLines? rest).map (⟨name, some operandType, users⟩ :: ·)
      | none => if first :: second :: rest = [" */", ""] then some [] else none
  | _ => none

/-- The lines above the entries of a note. -/
def openingLines : List String :=
  ["/*", " * Unresolved dependencies; define these before using the macros below:", " *"]

/-- The entries of a note. -/
def ofText? (text : String) : Option (List NoteEntry) :=
  (openingLines.isPrefixOf? (Text.linesOf text)).bind ofLines?

/-! ## Reading a line -/

section

variable {name operandType : String} {users : List String}
  (hname : Identifier.isIdentifier name.toList = true)

include hname in
lemma bareName?_append : bareName? (" *   " ++ name) = some name := by
  rw [bareName?, String.toList_append, Text.isPrefixOf?_append, Option.bind_some, if_pos hname,
    String.ofList_toList]

lemma toList_signatureLine (name operandType : String) :
    (signatureLine name operandType).toList = " *   int ".toList ++ (name.toList ++
      '(' :: (operandType.toList ++ ' ' :: ("a, " ++ operandType ++ " b);").toList)) := by
  unfold signatureLine
  simp

/-- A signature is no name. -/
lemma bareName?_signatureLine (name operandType : String) :
    bareName? (signatureLine name operandType) = none := by
  let text := "int ".toList ++ (name.toList ++ '(' :: (operandType.toList ++
    ' ' :: ("a, " ++ operandType ++ " b);").toList))
  have hline : (signatureLine name operandType).toList = " *   ".toList ++ text :=
    toList_signatureLine name operandType
  have htext : Identifier.isIdentifier text = false := by
    rw [Bool.eq_false_iff]
    intro h
    have hblank : Identifier.isPart ' ' = true := Identifier.isPart_of_mem h (by simp [text])
    exact absurd hblank (by decide)
  rw [bareName?, hline, Text.isPrefixOf?_append, Option.bind_some, htext]
  rfl

include hname in
lemma declared?_signatureLine (hType : Identifier.isIdentifier operandType.toList = true) :
    declared? (signatureLine name operandType) = some (name, operandType) := by
  rw [declared?, toList_signatureLine, Text.isPrefixOf?_append, Option.bind_some,
    Identifier.readUpTo?_append hname (by decide), Option.bind_some]
  dsimp only
  rw [Identifier.readUpTo?_append hType (by decide), Option.bind_some]
  exact if_pos rfl

/-- A line is about users only if there is a wide margin before it. -/
lemma requiredBy?_eq_none {line : String} {c : Char} {text : List Char}
    (hline : line.toList = " *   ".toList ++ c :: text) (hc : c ≠ ' ') :
    requiredBy? line = none := by
  rw [requiredBy?, hline, Text.isPrefixOf?_eq_none, Option.map_none]
  simp [Ne.symm hc]

lemma requiredBy?_signatureLine (name operandType : String) :
    requiredBy? (signatureLine name operandType) = none :=
  requiredBy?_eq_none (toList_signatureLine name operandType) (by decide)

include hname in
lemma requiredBy?_bareName : requiredBy? (" *   " ++ name) = none := by
  obtain ⟨c, rest, hcons⟩ : ∃ c rest, name.toList = c :: rest :=
    List.exists_cons_of_ne_nil fun hnil => by simp [hnil, Identifier.isIdentifier] at hname
  refine requiredBy?_eq_none (by rw [String.toList_append, hcons]) ?_
  rintro rfl
  have hblank : Identifier.isPart ' ' = true := Identifier.isPart_of_mem hname (by simp [hcons])
  exact absurd hblank (by decide)

lemma calledBy?_callLine (name operandType : String) :
    calledBy? name operandType (callLine name operandType) = some [] := by
  have hline := Text.isPrefixOf?_append (callLine name operandType).toList []
  rw [List.append_nil] at hline
  rw [calledBy?, hline]
  rfl

lemma calledBy?_append (name operandType : String) (hne : users ≠ [])
    (husers : ∀ user ∈ users, Identifier.isIdentifier user.toList = true) :
    calledBy? name operandType
      (callLine name operandType ++ (" by " ++ ", ".intercalate users)) = some users := by
  rw [calledBy?, String.toList_append, Text.isPrefixOf?_append, Option.bind_some,
    String.toList_append, if_neg (by simp), Text.isPrefixOf?_append, Option.map_some,
    Text.commaSeparated_intercalate hne husers]

lemma requiredBy?_append (hne : users ≠ [])
    (husers : ∀ user ∈ users, Identifier.isIdentifier user.toList = true) :
    requiredBy? (" *       required by " ++ ", ".intercalate users) = some users := by
  rw [requiredBy?, String.toList_append, Text.isPrefixOf?_append, Option.map_some,
    Text.commaSeparated_intercalate hne husers]

include hname in
lemma ofLines?_signatureLine (hType : Identifier.isIdentifier operandType.toList = true)
    {second : String} (hsecond : calledBy? name operandType second = some users)
    (rest : List String) : ofLines? (signatureLine name operandType :: second :: rest) =
      (ofLines? rest).map (⟨name, some operandType, users⟩ :: ·) := by
  rw [ofLines?, bareName?_signatureLine, declared?_signatureLine hname hType]
  simp only [hsecond, Option.bind_some]

include hname in
lemma ofLines?_bareName_users {second : String} (hsecond : requiredBy? second = some users)
    (rest : List String) : ofLines? ((" *   " ++ name) :: second :: rest) =
      (ofLines? rest).map (⟨name, none, users⟩ :: ·) := by
  rw [ofLines?, bareName?_append hname]
  simp only [hsecond]

include hname in
lemma ofLines?_bareName {second : String} (hsecond : requiredBy? second = none)
    (rest : List String) : ofLines? ((" *   " ++ name) :: second :: rest) =
      (ofLines? (second :: rest)).map (⟨name, none, []⟩ :: ·) := by
  rw [ofLines?, bareName?_append hname]
  simp only [hsecond]

end

end NoteEntry

/-! ## Reading an entry -/

namespace Need

/-- The macro and all its users are called by identifiers. -/
def IsNamed (need : Need) : Prop :=
  ∀ name ∈ need.name :: need.users, Identifier.isIdentifier name.toList = true

instance (need : Need) : Decidable need.IsNamed :=
  inferInstanceAs (Decidable (∀ name ∈ need.name :: need.users, _))

/-- What a note has to say of a needed macro. -/
def entry (need : Need) : NoteEntry :=
  ⟨need.name, need.comparatorType?, need.users⟩

variable {need : Need} {operandType : String}

lemma comparatorType?_eq_some_iff :
    need.comparatorType? = some operandType ↔
      operandType ≠ "" ∧ need.name = Comparator.nameFor operandType := by
  constructor
  · intro h
    obtain ⟨text, htext, rfl⟩ := Option.map_eq_some_iff.1 h
    obtain ⟨hstrip, hne⟩ := Option.filter_eq_some_iff.1 htext
    rw [Comparator.stripSuffix?, List.isSuffixOf?_eq_some_iff_append_eq] at hstrip
    refine ⟨fun hempty => ?_, ?_⟩
    · have hnil : text = [] := by rw [← String.toList_ofList (l := text), hempty]; rfl
      rw [hnil] at hne
      cases hne
    · rw [← String.toList_inj, ← hstrip, Comparator.nameFor, String.toList_append,
        String.toList_ofList]
  · rintro ⟨hne, hname⟩
    obtain ⟨name, users⟩ := need
    obtain rfl : name = Comparator.nameFor operandType := hname
    exact comparatorType?_nameFor fun hnil => hne (String.toList_inj.1 hnil)

namespace IsNamed

variable (h : need.IsNamed)

include h

lemma isIdentifier_name : Identifier.isIdentifier need.name.toList = true :=
  (List.forall_mem_cons.1 h).1

lemma isIdentifier_of_mem_users : ∀ user ∈ need.users, Identifier.isIdentifier user.toList = true :=
  (List.forall_mem_cons.1 h).2

/-- What stands before the ending of an identifier is an identifier, unless it is empty. -/
lemma isIdentifier_operandType (hType : need.comparatorType? = some operandType) :
    Identifier.isIdentifier operandType.toList = true := by
  obtain ⟨hne, hname⟩ := comparatorType?_eq_some_iff.1 hType
  have hidentifier := h.isIdentifier_name
  rw [hname, Comparator.nameFor, String.toList_append] at hidentifier
  obtain ⟨c, rest, hcons⟩ : ∃ c rest, operandType.toList = c :: rest :=
    List.exists_cons_of_ne_nil fun hnil => hne (String.toList_inj.1 hnil)
  rw [hcons] at hidentifier ⊢
  simp only [List.cons_append, Identifier.isIdentifier, List.all_append, Bool.and_eq_true]
    at hidentifier ⊢
  exact ⟨hidentifier.1, hidentifier.2.1⟩

/-- The list of the users is empty only if there are none. -/
lemma isEmpty_users_iff :
    (", ".intercalate need.users).isEmpty = true ↔ need.users = [] := by
  cases husers : need.users with
  | nil => exact iff_of_true rfl rfl
  | cons user others =>
    have huser : user ≠ "" := by
      rintro rfl
      have hempty := h.isIdentifier_of_mem_users "" (by simp [husers])
      cases hempty
    rw [isEmpty_intercalate huser]
    exact iff_of_false Bool.false_ne_true (List.cons_ne_nil user others)

/-- A macro with the name of a comparator is listed on two lines. -/
lemma adviceLines_of_some (hType : need.comparatorType? = some operandType) :
    need.adviceLines = [NoteEntry.signatureLine need.name operandType,
      NoteEntry.callLine need.name operandType ++
        if need.users = [] then "" else " by " ++ ", ".intercalate need.users] := by
  simp only [adviceLines, hType, h.isEmpty_users_iff]
  rfl

lemma adviceLines_of_none (hType : need.comparatorType? = none) :
    need.adviceLines = (" *   " ++ need.name) ::
      if need.users = [] then []
      else [" *       required by " ++ ", ".intercalate need.users] := by
  simp only [adviceLines, hType, h.isEmpty_users_iff]

/-- The first line of an entry is not taken for users. -/
lemma exists_adviceLines_eq_cons : ∃ first rest, need.adviceLines = first :: rest ∧
    NoteEntry.requiredBy? first = none := by
  cases hType : need.comparatorType? with
  | some operandType =>
    exact ⟨_, _, h.adviceLines_of_some hType,
      NoteEntry.requiredBy?_signatureLine need.name operandType⟩
  | none =>
    exact ⟨_, _, h.adviceLines_of_none hType, NoteEntry.requiredBy?_bareName h.isIdentifier_name⟩

/-- An entry is read in full, if the line behind it is not taken for users. -/
lemma ofLines?_append {next : String} (hnext : NoteEntry.requiredBy? next = none)
    (rest : List String) : NoteEntry.ofLines? (need.adviceLines ++ next :: rest) =
      (NoteEntry.ofLines? (next :: rest)).map (need.entry :: ·) := by
  have hname := h.isIdentifier_name
  cases hType : need.comparatorType? with
  | some operandType =>
    have hidentifier := h.isIdentifier_operandType hType
    have hcalls : NoteEntry.calledBy? need.name operandType
        (NoteEntry.callLine need.name operandType ++
          if need.users = [] then "" else " by " ++ ", ".intercalate need.users) =
            some need.users := by
      split
      · next hnil => rw [String.append_empty, NoteEntry.calledBy?_callLine, hnil]
      · next hne => exact NoteEntry.calledBy?_append _ _ hne h.isIdentifier_of_mem_users
    rw [h.adviceLines_of_some hType, List.cons_append, List.singleton_append,
      NoteEntry.ofLines?_signatureLine hname hidentifier hcalls, entry, hType]
  | none =>
    rw [h.adviceLines_of_none hType, List.cons_append, entry, hType]
    -- Without users, the line below the name is already that of the next entry.
    split
    · next hnil => rw [List.nil_append, NoteEntry.ofLines?_bareName hname hnext, hnil]
    · next hne =>
      rw [List.singleton_append, NoteEntry.ofLines?_bareName_users hname
        (NoteEntry.requiredBy?_append hne h.isIdentifier_of_mem_users)]

/-- What is said of a needed macro is on lines of its own. -/
lemma isLine_of_mem_adviceLines : ∀ line ∈ need.adviceLines, Text.IsLine line := by
  have hmarks : Text.IsLine " *   int " ∧ Text.IsLine "(" ∧ Text.IsLine " a, " ∧
      Text.IsLine " b);" ∧ Text.IsLine " *       called as " ∧ Text.IsLine "1," ∧
      Text.IsLine "2)" ∧ Text.IsLine " by " ∧ Text.IsLine " *   " ∧
      Text.IsLine " *       required by " ∧ Text.IsLine "" := by
    decide
  have hname := Text.isLine_of_isIdentifier h.isIdentifier_name
  have husers : Text.IsLine (", ".intercalate need.users) :=
    Text.isLine_intercalate (by decide) fun user huser =>
      Text.isLine_of_isIdentifier (h.isIdentifier_of_mem_users user huser)
  have hby : Text.IsLine (if need.users = [] then "" else " by " ++ ", ".intercalate need.users) := by
    split
    · decide
    · simp [hmarks, husers]
  cases hType : need.comparatorType? with
  | some operandType =>
    have hoperand := Text.isLine_of_isIdentifier (h.isIdentifier_operandType hType)
    rw [h.adviceLines_of_some hType, List.forall_mem_cons, List.forall_mem_singleton]
    have hsignature : Text.IsLine (NoteEntry.signatureLine need.name operandType) := by
      unfold NoteEntry.signatureLine
      simp [hmarks, hname, hoperand]
    have hcall : Text.IsLine (NoteEntry.callLine need.name operandType) := by
      unfold NoteEntry.callLine
      simp [hmarks, hname, hoperand]
    exact ⟨hsignature, Text.isLine_append.2 ⟨hcall, hby⟩⟩
  | none =>
    rw [h.adviceLines_of_none hType, List.forall_mem_cons]
    refine ⟨by simp [hmarks, hname], ?_⟩
    split
    · simp
    · simp [hmarks, husers]

end IsNamed

end Need

/-! ## Reading a note -/

namespace Header

lemma map_entry (missing : List Need) :
    (missing.map Need.entry).map (fun entry => (⟨entry.name, entry.users⟩ : Need)) = missing := by
  rw [List.map_map]
  exact List.map_id missing

section

variable {missing : List Need} (h : ∀ need ∈ missing, need.IsNamed)

include h

/-- Behind an entry stands another entry or the end of the note. -/
lemma exists_lines_eq_cons : ∃ next rest,
    missing.flatMap Need.adviceLines ++ [" */", ""] = next :: rest ∧
      NoteEntry.requiredBy? next = none := by
  cases missing with
  | nil => exact ⟨" */", [""], rfl, by decide⟩
  | cons need others =>
    obtain ⟨first, rest, hlines, hfirst⟩ :=
      (h need List.mem_cons_self).exists_adviceLines_eq_cons
    refine ⟨first, rest ++ (others.flatMap Need.adviceLines ++ [" */", ""]), ?_, hfirst⟩
    rw [List.flatMap_cons, hlines, List.append_assoc, List.cons_append]

/-- The entries are read one by one, and nothing is left over. -/
lemma ofLines?_flatMap :
    NoteEntry.ofLines? (missing.flatMap Need.adviceLines ++ [" */", ""]) =
      some (missing.map Need.entry) := by
  induction missing with
  | nil => decide
  | cons need others ih =>
    rw [List.forall_mem_cons] at h
    obtain ⟨next, rest, hlines, hnext⟩ := exists_lines_eq_cons h.2
    rw [List.flatMap_cons, List.append_assoc, hlines, h.1.ofLines?_append hnext, ← hlines, ih h.2]
    rfl

lemma linesOf_advice : Text.linesOf (advice missing) = adviceLines missing ++ [""] := by
  refine Text.linesOf_unlines ?_
  have hopening : ∀ line ∈ NoteEntry.openingLines, Text.IsLine line := by decide
  have hclosing : ∀ line ∈ [" */"], Text.IsLine line := by decide
  intro line hline
  rcases List.mem_append.1 hline with hline | hline
  · rcases List.mem_append.1 hline with hline | hline
    · exact hopening line hline
    · obtain ⟨need, hmem, hline⟩ := List.mem_flatMap.1 hline
      exact (h need hmem).isLine_of_mem_adviceLines line hline
  · exact hclosing line hline

lemma ofText?_advice_eq : NoteEntry.ofText? (advice missing) = some (missing.map Need.entry) := by
  have hlines : Text.linesOf (advice missing) =
      NoteEntry.openingLines ++ (missing.flatMap Need.adviceLines ++ [" */", ""]) := by
    rw [linesOf_advice h, adviceLines, List.append_assoc, List.append_assoc]
    rfl
  have hopening : NoteEntry.openingLines.isPrefixOf? (Text.linesOf (advice missing)) =
      some (missing.flatMap Need.adviceLines ++ [" */", ""]) :=
    List.isPrefixOf?_eq_some_iff_append_eq.2 hlines.symm
  rw [NoteEntry.ofText?, hopening, Option.bind_some, ofLines?_flatMap h]

/-- Two lists of needs that are noted by one text are one list. -/
lemma eq_of_advice_eq {other : List Need} (hother : ∀ need ∈ other, need.IsNamed)
    (heq : advice other = advice missing) : other = missing := by
  have hentries : other.map Need.entry = missing.map Need.entry := by
    rw [← Option.some_inj, ← ofText?_advice_eq hother, heq, ofText?_advice_eq h]
  rw [← map_entry other, hentries, map_entry]

lemma adviceLines_infix {need : Need} (hmem : need ∈ missing) :
    need.adviceLines <:+: Text.linesOf (advice missing) := by
  obtain ⟨before, behind, rfl⟩ := List.append_of_mem hmem
  rw [linesOf_advice h, adviceLines, List.flatMap_append, List.flatMap_cons]
  exact ⟨NoteEntry.openingLines ++ before.flatMap Need.adviceLines,
    behind.flatMap Need.adviceLines ++ [" */"] ++ [""], by simp [NoteEntry.openingLines]⟩

/-- **A note loses nothing.**  All needed macros and their users are read from the text of the note,
in their order, if they are called by identifiers; so no other list of such macros has this text.  A
macro is read with an operand type if it has the name of that type's comparator, and not otherwise.
The type is all that stands before the last `_compare`, unless nothing does, and the lines with the
signature and the call are over exactly this type. -/
theorem ofText?_advice :
    (∃ entries, NoteEntry.ofText? (advice missing) = some entries ∧
      entries.map (fun entry => (⟨entry.name, entry.users⟩ : Need)) = missing ∧
      ∀ entry ∈ entries, ∀ operandType, entry.operandType = some operandType ↔
        operandType ≠ "" ∧ entry.name = Comparator.nameFor operandType) ∧
    (∀ other : List Need, (∀ need ∈ other, need.IsNamed) →
      advice other = advice missing → other = missing) ∧
    ∀ need ∈ missing, ∀ operandType, operandType ≠ "" →
      need.name = Comparator.nameFor operandType →
        [NoteEntry.signatureLine need.name operandType,
          NoteEntry.callLine need.name operandType ++
            if need.users = [] then "" else " by " ++ ", ".intercalate need.users] <:+:
          Text.linesOf (advice missing) := by
  refine ⟨⟨missing.map Need.entry, ofText?_advice_eq h, map_entry missing, ?_⟩, ?_, ?_⟩
  · intro entry hentry operandType
    obtain ⟨need, -, rfl⟩ := List.mem_map.1 hentry
    exact Need.comparatorType?_eq_some_iff
  · exact fun other hother heq => eq_of_advice_eq h hother heq
  · intro need hmem operandType hne hname
    rw [← (h need hmem).adviceLines_of_some (Need.comparatorType?_eq_some_iff.2 ⟨hne, hname⟩)]
    exact adviceLines_infix h hmem

end

/-- A type may itself be called like a comparator. -/
theorem ofText?_advice_nested :
    let missing : List Need :=
      [⟨"_compare", ["Fail_a", "Fail_b"]⟩, ⟨"Foo_compare_compare", ["Assert_Foo_compareLT"]⟩,
        ⟨"int", []⟩]
    (∀ need ∈ missing, need.IsNamed) ∧
      (∃ entries, NoteEntry.ofText? (advice missing) = some entries ∧
        entries.map (fun entry => (⟨entry.name, entry.users⟩ : Need)) = missing) ∧
      [" *   int Foo_compare_compare(Foo_compare a, Foo_compare b);",
        " *       called as Foo_compare_compare(Foo_compare1,Foo_compare2) by " ++
          "Assert_Foo_compareLT"] <:+: Text.linesOf (advice missing) := by
  intro missing
  have hnamed : ∀ need ∈ missing, need.IsNamed := by decide
  obtain ⟨⟨entries, hread, hneeds, -⟩, -, hlines⟩ := ofText?_advice hnamed
  exact ⟨hnamed, ⟨entries, hread, hneeds⟩,
    hlines ⟨"Foo_compare_compare", ["Assert_Foo_compareLT"]⟩ (by decide) "Foo_compare" (by decide)
      rfl⟩

end Header

end AssertionHeader
