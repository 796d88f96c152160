import AssertionHeader.Proofs.Literals
import AssertionHeader.Proofs.Meaning.Code
import AssertionHeader.Proofs.Recognition

/-!
# The call in a definition

The macro of an assertion calls the report function.  `Assertion.definition_call` reads its
definition as C does: a backslash at the end of a line continues the line (`Text.splice`), and the
arguments of a call are separated by those commas that stand neither in a string literal nor in
parentheses of their own (`Call.readArguments?`).  Read so, each definition is one line with one
call, of six arguments, whatever the assertion.

That a text leaves the arguments around it alone is a matter of where a scan of it begins and ends
(`Scan.Leads`).  Scans compose, so that texts which are put together from operands, literals and the
texts of the settings are scanned piece by piece.
-/

namespace AssertionHeader

/-! ## Continued lines -/

namespace Text

/-- The characters of a text without the backslashes that continue a line and the line feeds behind
them. -/
def spliceChars : List Char → List Char
  | '\\' :: '\n' :: rest => spliceChars rest
  | c :: rest => c :: spliceChars rest
  | [] => []

/-- The text with continued lines in one. -/
def splice (text : String) : String :=
  String.ofList (spliceChars text.toList)

lemma spliceChars_cons {c : Char} {rest : List Char} (h : rest.head? ≠ some '\n') :
    spliceChars (c :: rest) = c :: spliceChars rest := by
  rw [spliceChars]
  rintro others rfl rfl
  exact h rfl

lemma spliceChars_append {front rest : List Char} (hfront : '\n' ∉ front)
    (hrest : rest.head? ≠ some '\n') : spliceChars (front ++ rest) = front ++ spliceChars rest := by
  induction front with
  | nil => rfl
  | cons c others ih =>
    rw [List.mem_cons, not_or] at hfront
    have hnext : (others ++ rest).head? ≠ some '\n' := by
      cases others with
      | nil => exact hrest
      | cons d others =>
        rw [List.mem_cons, not_or] at hfront
        simpa [eq_comm] using hfront.2.1
    rw [List.cons_append, spliceChars_cons hnext, ih hfront.2, List.cons_append]

lemma spliceChars_continued {front : List Char} (h : '\n' ∉ front) (rest : List Char) :
    spliceChars (front ++ '\\' :: '\n' :: rest) = front ++ spliceChars rest := by
  rw [spliceChars_append h (by simp), spliceChars]

/-- Two continued lines and one that is not. -/
lemma splice_unlines {first second third : String} (hfirst : IsLine first)
    (hsecond : IsLine second) (hthird : IsLine third) :
    splice (unlines [first ++ "\\", second ++ "\\", third ++ ")"]) =
      line (first ++ second ++ third ++ ")") := by
  have htext : (unlines [first ++ "\\", second ++ "\\", third ++ ")"]).toList =
      first.toList ++ '\\' :: '\n' :: (second.toList ++ '\\' :: '\n' ::
        (third.toList ++ [')', '\n'])) := by
    simp
  have hlast : spliceChars [')', '\n'] = [')', '\n'] := rfl
  rw [splice, htext, spliceChars_continued hfirst, spliceChars_continued hsecond,
    spliceChars_append hthird (by simp), hlast, ← String.toList_inj, String.toList_ofList]
  simp [line]

end Text

/-! ## Scanning code -/

/-- Where a scan of code stands: in code, in a string literal or behind a backslash in one, inside
so many parentheses. -/
inductive Scan where
  | code (depth : Nat)
  | literal (depth : Nat)
  | escape (depth : Nat)
  deriving DecidableEq, Repr

namespace Scan

/-- Where the scan stands behind the next character. -/
def next : Scan → Char → Scan
  | code depth, '"' => literal depth
  | code depth, '(' => code (depth + 1)
  | code depth, ')' => code (depth - 1)
  | code depth, _ => code depth
  | literal depth, '"' => code depth
  | literal depth, '\\' => escape depth
  | literal depth, _ => literal depth
  | escape depth, _ => literal depth

/-- Whether an argument ends before the next character: at a comma or a closing parenthesis outside
of parentheses and literals. -/
def ends : Scan → Char → Bool
  | code 0, ',' | code 0, ')' => true
  | _, _ => false

/-- Where the scan stands behind a text, if no argument ends in it. -/
def through? (scan : Scan) : List Char → Option Scan
  | [] => some scan
  | c :: rest => if scan.ends c then none else (scan.next c).through? rest

/-- The text leads a scan from one place to another, and no argument ends in it. -/
def Leads (scan : Scan) (text : String) (scan' : Scan) : Prop :=
  scan.through? text.toList = some scan'

instance (scan scan' : Scan) (text : String) : Decidable (Leads scan text scan') :=
  inferInstanceAs (Decidable (_ = _))

lemma through?_append (scan : Scan) (s t : List Char) :
    scan.through? (s ++ t) = (scan.through? s).bind fun scan => scan.through? t := by
  induction s generalizing scan with
  | nil => rfl
  | cons c rest ih =>
    rw [List.cons_append, through?, through?]
    split
    · rfl
    · exact ih _

lemma Leads.append {s t : String} {scan scan' scan'' : Scan} (hs : scan.Leads s scan')
    (ht : scan'.Leads t scan'') : scan.Leads (s ++ t) scan'' := by
  rw [Leads, String.toList_append, through?_append, hs, Option.bind_some]
  exact ht

/-! ### Texts that a scan stays in place for -/

/-- The character is read as part of whatever it stands in. -/
def IsOrdinary (c : Char) : Prop :=
  c ≠ '"' ∧ c ≠ '(' ∧ c ≠ ')' ∧ c ≠ ','

lemma through?_cons_of_isOrdinary {c : Char} (h : IsOrdinary c) (depth : Nat) (rest : List Char) :
    (code depth).through? (c :: rest) = (code depth).through? rest := by
  obtain ⟨hquote, hopen, hclose, hcomma⟩ := h
  have hends : (code depth).ends c = false := by
    unfold ends
    split <;> simp_all
  have hnext : (code depth).next c = code depth := by
    unfold next
    split <;> simp_all
  rw [through?, hends, hnext, if_neg Bool.false_ne_true]

lemma through?_of_isOrdinary {text : List Char} (h : ∀ c ∈ text, IsOrdinary c) (depth : Nat) :
    (code depth).through? text = some (code depth) := by
  induction text with
  | nil => rfl
  | cons c rest ih =>
    rw [List.forall_mem_cons] at h
    rw [through?_cons_of_isOrdinary h.1, ih h.2]

lemma isOrdinary_of_isPart {c : Char} (h : Identifier.isPart c = true) : IsOrdinary c := by
  refine ⟨?_, ?_, ?_, ?_⟩
  all_goals
    rintro rfl
    exact absurd h (by decide)

lemma leads_of_isIdentifier {text : String} (h : Identifier.isIdentifier text.toList = true)
    (depth : Nat) : (code depth).Leads text (code depth) :=
  through?_of_isOrdinary (fun _ hc => isOrdinary_of_isPart (Identifier.isPart_of_mem h hc)) depth

lemma leads_repr (n depth : Nat) : (code depth).Leads n.repr (code depth) := by
  rw [Leads, Nat.toList_repr]
  exact through?_of_isOrdinary (fun c hc => isOrdinary_of_isPart
    (Identifier.isPart_of_digit? (Numeral.digit?_isSome_of_mem_toDigits hc))) depth

/-- What a scan stays in place for inside parentheses, it stays in place for with the parentheses
and a blank around it. -/
lemma leads_parenthesized {text : String} {depth : Nat}
    (h : (code (depth + 1)).Leads text (code (depth + 1))) :
    (code depth).Leads ("(" ++ text ++ ") ") (code depth) := by
  have hopen : (code depth).Leads "(" (code (depth + 1)) := by simp [Leads, through?, ends, next]
  have hclose : (code (depth + 1)).Leads ") " (code depth) := by
    simp [Leads, through?, ends, next]
  exact (hopen.append h).append hclose

/-- Whatever is quoted, a scan leaves the literal where it entered it. -/
lemma leads_quote (text : String) (depth : Nat) :
    (code depth).Leads (Text.quote text) (code depth) := by
  have hchar : ∀ c, (literal depth).through? (Text.escapeChar c) = some (literal depth) := by
    intro c
    unfold Text.escapeChar
    split
    · rfl
    · rfl
    · rfl
    · simp_all [through?, ends, next]
  have hescape : (literal depth).Leads (String.ofList (Text.escape text.toList))
      (literal depth) := by
    rw [Leads, String.toList_ofList]
    induction text.toList with
    | nil => rfl
    | cons c rest ih =>
      have hsplit : Text.escape (c :: rest) = Text.escapeChar c ++ Text.escape rest := rfl
      rw [hsplit, through?_append, hchar, Option.bind_some, ih]
  have hopen : (code depth).Leads "\"" (literal depth) := by simp [Leads, through?, ends, next]
  have hclose : (literal depth).Leads "\"" (code depth) := by simp [Leads, through?, ends, next]
  exact (hopen.append hescape).append hclose

lemma leads_intercalate {separator : String} {items : List String} {depth : Nat}
    (hseparator : (code depth).Leads separator (code depth))
    (h : ∀ item ∈ items, (code depth).Leads item (code depth)) :
    (code depth).Leads (separator.intercalate items) (code depth) := by
  induction items with
  | nil => rfl
  | cons first rest ih =>
    rw [List.forall_mem_cons] at h
    cases rest with
    | nil =>
      rw [String.intercalate_singleton]
      exact h.1
    | cons second others =>
      rw [String.intercalate_cons_cons]
      exact (h.1.append hseparator).append (ih h.2)

end Scan

/-! ## The texts of the settings -/

/-- The parentheses of the text are properly nested. -/
inductive Nested : List Char → Prop where
  | nil : Nested []
  | other {c : Char} {rest : List Char} (hopen : c ≠ '(') (hclose : c ≠ ')')
      (hrest : Nested rest) : Nested (c :: rest)
  | group {inner rest : List Char} (hinner : Nested inner) (hrest : Nested rest) :
      Nested ('(' :: (inner ++ ')' :: rest))

lemma Nested.of_not_mem {text : List Char} (hopen : '(' ∉ text) (hclose : ')' ∉ text) :
    Nested text := by
  induction text with
  | nil => exact .nil
  | cons c rest ih =>
    rw [List.mem_cons, not_or] at hopen hclose
    exact .other (Ne.symm hopen.1) (Ne.symm hclose.1) (ih hopen.2 hclose.2)

lemma Nested.through? {text : List Char} (h : Nested text) (hcomma : ',' ∉ text)
    (hquote : '"' ∉ text) (depth : Nat) :
    (Scan.code depth).through? text = some (.code depth) := by
  induction h generalizing depth with
  | nil => rfl
  | other hopen hclose _ ih =>
    rw [List.mem_cons, not_or] at hcomma hquote
    rw [Scan.through?_cons_of_isOrdinary ⟨Ne.symm hquote.1, hopen, hclose, Ne.symm hcomma.1⟩]
    exact ih hcomma.2 hquote.2 depth
  | @group inner rest _ _ ihinner ihrest =>
    simp only [List.mem_cons, List.mem_append, not_or] at hcomma hquote
    have hopen : (Scan.code depth).through? ['('] = some (.code (depth + 1)) := by
      simp [Scan.through?, Scan.ends, Scan.next]
    have hclose : (Scan.code (depth + 1)).through? [')'] = some (.code depth) := rfl
    have hsplit : '(' :: (inner ++ ')' :: rest) = ['('] ++ (inner ++ ([')'] ++ rest)) := by simp
    rw [hsplit, Scan.through?_append, hopen, Option.bind_some, Scan.through?_append,
      ihinner hcomma.2.1 hquote.2.1 (depth + 1), Option.bind_some, Scan.through?_append, hclose,
      Option.bind_some]
    exact ihrest hcomma.2.2.2 hquote.2.2.2 depth

/-- The text can stand in an argument of a call: its parentheses are properly nested, it is one
line, and it has no commas or double quotes.  Single quotes and backslashes do no harm. -/
structure IsOperandCode (text : String) : Prop where
  nested : Nested text.toList
  isLine : Text.IsLine text
  lacksComma : Text.Lacks ',' text
  lacksQuote : Text.Lacks '"' text

lemma IsOperandCode.leads {text : String} (h : IsOperandCode text) (depth : Nat) :
    (Scan.code depth).Leads text (.code depth) :=
  h.nested.through? h.lacksComma h.lacksQuote depth

/-- What the settings put into the call: the name of a function, and code that can stand in an
argument. -/
structure Settings.IsCallable (settings : Settings) : Prop where
  reportFunction : Identifier.isIdentifier settings.reportFunction.toList = true
  failureCondition : IsOperandCode settings.failureCondition
  sentinel : IsOperandCode settings.sentinel

/-! ## Calls -/

/-- A call of a function, with its arguments as they are written. -/
structure Call where
  function : String
  arguments : List String
  deriving DecidableEq, Repr

namespace Call

/-- The arguments of a call, the first of which is being scanned, and what follows the parenthesis
that closes the call. -/
def readArguments? : Scan → List Char → Option (List (List Char) × List Char)
  | _, [] => none
  | scan, c :: rest =>
    if scan.ends c then
      if c = ',' then
        (readArguments? scan rest).map fun (arguments, rest) => ([] :: arguments, rest)
      else some ([[]], rest)
    else
      (readArguments? (scan.next c) rest).map fun (arguments, rest) =>
        (arguments.modifyHead (c :: ·), rest)

/-- A call, with nothing before it but blanks and nothing behind it. -/
def ofText? (text : List Char) : Option Call :=
  (Identifier.readUpTo? '(' (text.dropWhile Text.isBlank)).bind fun (function, inner) =>
    (readArguments? (.code 0) inner).bind fun (arguments, rest) =>
      if rest.isEmpty then some ⟨function, arguments.map String.ofList⟩ else none

lemma readArguments?_append {scan scan' : Scan} {text : List Char}
    (h : scan.through? text = some scan') (rest : List Char) :
    readArguments? scan (text ++ rest) =
      (readArguments? scan' rest).map fun (arguments, rest) =>
        (arguments.modifyHead (text ++ ·), rest) := by
  induction text generalizing scan with
  | nil =>
    obtain rfl : scan = scan' := by simpa [Scan.through?] using h
    rw [List.nil_append]
    cases readArguments? scan rest with
    | none => rfl
    | some read =>
      obtain ⟨_ | ⟨first, others⟩, rest⟩ := read <;> rfl
  | cons c others ih =>
    obtain ⟨hends, hothers⟩ := Option.ite_none_left_eq_some.1 h
    rw [List.cons_append, readArguments?, if_neg hends, ih hothers]
    cases readArguments? scan' rest with
    | none => rfl
    | some read =>
      obtain ⟨_ | ⟨first, others⟩, rest⟩ := read <;> rfl

/-- Arguments are read as they are written, if a scan leaves each of them where it entered it. -/
lemma readArguments?_intercalate {arguments : List String} (hne : arguments ≠ [])
    (h : ∀ argument ∈ arguments, (Scan.code 0).Leads argument (.code 0)) (rest : List Char) :
    readArguments? (.code 0) ((",".intercalate arguments).toList ++ ')' :: rest) =
      some (arguments.map String.toList, rest) := by
  induction arguments with
  | nil => exact absurd rfl hne
  | cons argument others ih =>
    rw [List.forall_mem_cons] at h
    cases others with
    | nil =>
      have hclose : readArguments? (.code 0) (')' :: rest) = some ([[]], rest) := rfl
      rw [String.intercalate_singleton, readArguments?_append h.1, hclose]
      simp
    | cons second others =>
      have hnext := ih (List.cons_ne_nil second others) h.2
      have hcomma : ∀ text, readArguments? (.code 0) (',' :: text) =
          (readArguments? (.code 0) text).map fun (arguments, rest) => ([] :: arguments, rest) :=
        fun _ => rfl
      rw [String.intercalate_cons_cons, String.toList_append, String.toList_append,
        List.append_assoc, List.append_assoc, readArguments?_append h.1]
      have hseparator : ",".toList ++ ((",".intercalate (second :: others)).toList ++ ')' :: rest) =
          ',' :: ((",".intercalate (second :: others)).toList ++ ')' :: rest) := rfl
      rw [hseparator, hcomma, hnext]
      simp

/-- A call is read as it is written, behind whatever blanks. -/
lemma ofText?_append {blanks function : String} {arguments : List String}
    (hblanks : ∀ c ∈ blanks.toList, Text.isBlank c = true)
    (hfunction : Identifier.isIdentifier function.toList = true) (hne : arguments ≠ [])
    (h : ∀ argument ∈ arguments, (Scan.code 0).Leads argument (.code 0)) :
    ofText? (blanks ++ function ++ "(" ++ ",".intercalate arguments ++ ")").toList =
      some ⟨function, arguments⟩ := by
  have htext : (blanks ++ function ++ "(" ++ ",".intercalate arguments ++ ")").toList =
      blanks.toList ++ (function.toList ++ '(' ::
        ((",".intercalate arguments).toList ++ [')'])) := by
    simp
  have hstart : ∀ rest, (function.toList ++ rest).dropWhile Text.isBlank =
      function.toList ++ rest := by
    intro rest
    cases hlist : function.toList with
    | nil => simp [hlist, Identifier.isIdentifier] at hfunction
    | cons c others =>
      have hblank : Text.isBlank c = false :=
        Identifier.isBlank_of_isPart
          (Identifier.isPart_of_mem hfunction (hlist ▸ List.mem_cons_self))
      simp [hblank]
  have hread := readArguments?_intercalate hne h []
  rw [ofText?, htext, List.dropWhile_append_of_pos hblanks, hstart,
    Identifier.readUpTo?_append hfunction (by decide), Option.bind_some]
  simp only [hread, Option.bind_some]
  simp

end Call

/-! ## The texts of an assertion -/

open Scan in
/-- Whatever commas and parentheses a test has, it stands in parentheses with them. -/
lemma Test.leads_text {failureCondition : String} {test : Test}
    (h : test.IsWellFormed failureCondition) (hsettings : IsOperandCode failureCondition) :
    (code 0).Leads test.text (code 0) := by
  obtain ⟨hnames, hcondition⟩ := h
  have hname : ∀ name ∈ test.names, ∀ depth, (code depth).Leads name (code depth) :=
    fun name hmem => leads_of_isIdentifier (hnames name hmem)
  have hopen : (code 0).Leads "(" (code 1) ∧ (code 0).Leads "((" (code 2) ∧
      (code 0).Leads " (" (code 1) ∧ (code 1).Leads "(" (code 2) := by
    decide
  have hclose : (code 1).Leads ")" (code 0) ∧ (code 2).Leads ") " (code 1) ∧
      (code 1).Leads " 0)" (code 0) := by
    decide
  have hmarks : (code 2).Leads "," (code 2) ∧ (code 0).Leads " " (code 0) ∧
      (code 0).Leads " NULL" (code 0) := by
    decide
  have hequality : ∀ equality : Equality, (code 0).Leads equality.symbol (code 0) := by
    rintro (_ | _) <;> decide
  have hrelation : ∀ relation : Relation, (code 1).Leads relation.symbol (code 1) := by
    rintro (_ | _ | _ | _ | _ | _) <;> decide
  cases test with
  | truth operand =>
    rw [names, List.forall_mem_singleton] at hname
    exact (hopen.1.append (hname 1)).append hclose.1
  | failure operand condition =>
    obtain rfl := hcondition _ _ rfl
    rw [names, List.forall_mem_singleton] at hname
    exact (((hopen.2.1.append (hname 2)).append hclose.2.1).append (hsettings.leads 1)).append
      hclose.1
  | null operand equality =>
    rw [names, List.forall_mem_singleton] at hname
    exact ((leads_parenthesized (hname 1)).append (hequality equality)).append hmarks.2.2
  | literal operand equality value =>
    rw [names, List.forall_mem_singleton] at hname
    exact (((leads_parenthesized (hname 1)).append (hequality equality)).append
      hmarks.2.1).append (leads_repr value 0)
  | order comparator first second relation =>
    rw [names, List.forall_mem_cons, List.forall_mem_cons, List.forall_mem_singleton] at hname
    obtain ⟨hcomparator, hfirst, hsecond⟩ := hname
    have hcall : (code 1).Leads (comparator ++ "(" ++ first ++ "," ++ second ++ ") ") (code 1) :=
      (((((hcomparator 1).append hopen.2.2.2).append (hfirst 2)).append hmarks.1).append
        (hsecond 2)).append hclose.2.1
    have htext : (order comparator first second relation).text =
        "(" ++ (comparator ++ "(" ++ first ++ "," ++ second ++ ") ") ++ relation.symbol ++
          " 0)" := by
      simp only [text, String.append_assoc]
    rw [htext]
    exact ((hopen.1.append hcall).append (hrelation relation)).append hclose.2.2
  | identity first equality second =>
    rw [names, List.forall_mem_cons, List.forall_mem_singleton] at hname
    exact ((((leads_parenthesized (hname.1 1)).append (hequality equality)).append
      hopen.2.2.1).append (hname.2 1)).append hclose.1

lemma LiteralPart.leads_spelling {part : LiteralPart} (h : part.IsLegal) :
    (Scan.code 0).Leads part.spelling (.code 0) := by
  cases part with
  | literal text => exact Scan.leads_quote text 0
  | stringified operand =>
    have hmark : (Scan.code 0).Leads "#" (.code 0) := by decide
    exact hmark.append (Scan.leads_of_isIdentifier h 0)

lemma Message.leads_literal {message : Message}
    (h : ∀ name, .operand name ∈ message → Identifier.isIdentifier name.toList = true) :
    (Scan.code 0).Leads message.literal (.code 0) := by
  rw [literal, literalParts_eq_map]
  refine Scan.leads_intercalate (by decide) fun text htext => ?_
  obtain ⟨part, hpart, rfl⟩ := List.mem_map.1 htext
  exact LiteralPart.leads_spelling (isLegal_of_mem_parts h part hpart)

namespace Assertion

variable {token : String} {a : Assertion} {settings : Settings}

lemma leads_message (h : Name.decode token = .assertion a) :
    (Scan.code 0).Leads a.message.literal (.code 0) :=
  Message.leads_literal fun name hmem =>
    isIdentifier_operands h name (mem_operands_of_mem_message h hmem)

lemma leads_expression (h : Name.decode token = .assertion a)
    (hsettings : IsOperandCode settings.failureCondition) :
    (Scan.code 0).Leads (a.expression settings).text (.code 0) := by
  have htest : (Scan.code 0).Leads (a.expression settings).test.text (.code 0) := by
    have hType := isIdentifier_operandType h
    obtain ⟨polarity, spelling, sense, -, rfl⟩ := Name.decode_eq_assertion_iff.1 h
    exact Test.leads_text (isWellFormed_test _ _ _ _ _ settings hType) hsettings
  rw [Expression.text]
  split
  · have hnot : (Scan.code 0).Leads "!" (.code 0) := by decide
    exact hnot.append htest
  · exact htest

/-! ## The definition of an assertion -/

/-- The arguments that the report function is called with, and the blanks around them: the test, the
place in the source, the failure message, what the caller adds, and the sentinel. -/
def callArguments (a : Assertion) (settings : Settings) : List String :=
  [(a.expression settings).text, " __FILE__", " __LINE__", "         " ++ a.message.literal,
    " ## __VA_ARGS__", " " ++ settings.sentinel]

lemma leads_of_mem_callArguments (h : Name.decode token = .assertion a)
    (hsettings : settings.IsCallable) :
    ∀ argument ∈ a.callArguments settings, (Scan.code 0).Leads argument (.code 0) := by
  have hfixed : ∀ text ∈ [" __FILE__", " __LINE__", " ## __VA_ARGS__", "         ", " "],
      (Scan.code 0).Leads text (.code 0) := by
    decide
  have hmessage := (hfixed "         " (by simp)).append (leads_message h)
  have hsentinel := (hfixed " " (by simp)).append (hsettings.sentinel.leads 0)
  simp only [callArguments, List.forall_mem_cons]
  exact ⟨leads_expression h hsettings.failureCondition, hfixed _ (by simp), hfixed _ (by simp),
    hmessage, hfixed _ (by simp), hsentinel, by simp⟩

/-- **A definition is one line with one call of six arguments.**  The definition of an assertion
stands on three lines, of which the first two, and not the third, end in a backslash.  With these
lines in one, it defines the macro, with its operands and any further arguments, as one call of the
report function and nothing else.  The arguments of this call are the text of the test, the place in
the source, the failure message, what the caller adds and the sentinel.

The settings must name a function, and their texts must have properly nested parentheses and no
commas, double quotes or line feeds. -/
theorem definition_call (token : String) (a : Assertion) (settings : Settings)
    (h : Name.decode token = .assertion a) (hsettings : settings.IsCallable) :
    ∃ first second third call : String,
      Text.linesOf (a.definition settings) = [first ++ "\\", second ++ "\\", third ++ ")", ""] ∧
      Text.linesOf (Text.splice (a.definition settings)) =
        ["#define " ++ a.name ++ "(" ++ ", ".intercalate a.operands ++ ", ...)" ++ call, ""] ∧
      Call.ofText? call.toList = some ⟨settings.reportFunction, a.callArguments settings⟩ := by
  have hplain := isPlain_of_decode h
  have hspace : Text.isBlank ' ' = true := by decide
  let first := "#define " ++ a.name ++ "(" ++ ", ".intercalate a.operands ++ ", ...) "
  let second := "    " ++ settings.reportFunction ++ "(" ++ (a.expression settings).text ++
    ", __FILE__, __LINE__, "
  let third := "        " ++ a.message.literal ++ ", ## __VA_ARGS__, " ++ settings.sentinel
  let call := "     " ++ settings.reportFunction ++ "(" ++
    ",".intercalate (a.callArguments settings) ++ ")"
  have hfirst : Text.IsLine first := by
    have hoperands : Text.IsLine (", ".intercalate a.operands) :=
      Text.isLine_intercalate (by decide) hplain.operands
    simp only [first, Text.isLine_append]
    exact ⟨⟨⟨⟨by decide, hplain.name⟩, by decide⟩, hoperands⟩, by decide⟩
  have hsecond : Text.IsLine second := by
    have hexpression := isLine_expression hplain hsettings.failureCondition.isLine
    have hfunction := Text.isLine_of_isIdentifier hsettings.reportFunction
    simp only [second, Text.isLine_append]
    exact ⟨⟨⟨⟨by decide, hfunction⟩, by decide⟩, hexpression⟩, by decide⟩
  have hthird : Text.IsLine third := by
    simp only [third, Text.isLine_append]
    exact ⟨⟨⟨by decide, hplain.message⟩, by decide⟩, hsettings.sentinel.isLine⟩
  have hmarks : Text.IsLine "\\" ∧ Text.IsLine ")" := by decide
  have hlines : a.definition settings =
      Text.unlines [first ++ "\\", second ++ "\\", third ++ ")"] := by
    simp [definition, first, second, third, ← String.toList_inj]
  have hcall : first ++ second ++ third ++ ")" =
      "#define " ++ a.name ++ "(" ++ ", ".intercalate a.operands ++ ", ...)" ++ call := by
    simp [first, second, third, call, callArguments, ← String.toList_inj,
      String.intercalate_cons_cons]
  refine ⟨first, second, third, call, ?_, ?_, ?_⟩
  · rw [hlines, Text.linesOf_unlines]
    · rfl
    · simp [hfirst, hsecond, hthird, hmarks]
  · rw [hlines, Text.splice_unlines hfirst hsecond hthird, ← Text.unlines_singleton,
      Text.linesOf_unlines, hcall]
    · rfl
    · simp [hfirst, hsecond, hthird, hmarks]
  · exact Call.ofText?_append (by simp [hspace]) hsettings.reportFunction (by simp [callArguments])
      (leads_of_mem_callArguments h hsettings)

theorem definition_call_temperature :
    let a := Sense.assertion (.order "Temperature" .ne) "Fail_if_TemperatureNE" .failIf
    Name.decode "Fail_if_TemperatureNE" = .assertion a ∧
      Settings.IsCallable {} ∧
      a.callArguments {} = ["(Temperature_compare(Temperature1,Temperature2) == 0)", " __FILE__",
        " __LINE__", "         \"\x27\" #Temperature1 \"\x27 is not equal to \x27\"" ++
          " #Temperature2 \"\x27\"", " ## __VA_ARGS__", " (const char *) 0"] ∧
      ∃ call, Text.linesOf (Text.splice (a.definition {})) =
          ["#define " ++ a.name ++ "(" ++ ", ".intercalate a.operands ++ ", ...)" ++ call, ""] ∧
        Call.ofText? call.toList = some ⟨"assert_report", a.callArguments {}⟩ := by
  intro a
  have hnested : Nested "(const char *) 0".toList :=
    @Nested.group "const char *".toList " 0".toList (.of_not_mem (by decide) (by decide))
      (.of_not_mem (by decide) (by decide))
  have hsettings : Settings.IsCallable {} :=
    ⟨by decide, ⟨.of_not_mem (by decide) (by decide), by decide, by decide, by decide⟩,
      ⟨hnested, by decide, by decide, by decide⟩⟩
  obtain ⟨-, -, -, call, -, hsplice, hcall⟩ :=
    definition_call "Fail_if_TemperatureNE" a {} rfl hsettings
  exact ⟨rfl, hsettings, by decide, call, hsplice, hcall⟩

end Assertion

end AssertionHeader
