import AssertionHeader.Failure
import AssertionHeader.Text.Blank
import AssertionHeader.Text.Utf8

/-!
# Sources of names

A source delivers bytes, in portions of any size, and now and then fails to.  It is read line by
line: a line is complete with its line feed, or when nothing more is delivered.  A failed delivery
loses the line that it interrupts, and reading goes on behind it.  A line that is not UTF-8 is
decoded as far as it can be, and blanks at both ends of a line are dropped.
-/

namespace AssertionHeader

/-- What a source delivers at a time. -/
inductive Delivery where
  | bytes (bytes : List UInt8)
  /-- The delivery failed, for the reason given. -/
  | failure (detail : String)
  deriving DecidableEq, Repr

namespace Source

def lineFeed : UInt8 := 10

/-- Reads on with the current line, of which the bytes `pending` have arrived: the bytes of the
line, or why it was lost, and what is still to be delivered.  There is no line if nothing arrives
before the end. -/
def readLine? (pending : List UInt8) :
    List Delivery → Option (Except String (List UInt8) × List Delivery)
  | [] => if pending.isEmpty then none else some (.ok pending, [])
  | .failure detail :: rest => some (.error detail, rest)
  | .bytes bytes :: rest =>
    match bytes.dropWhile (· != lineFeed) with
    | [] => readLine? (pending ++ bytes) rest
    | feed :: behind =>
      some (.ok (pending ++ bytes.takeWhile (· != lineFeed) ++ [feed]), .bytes behind :: rest)

def lineText (bytes : List UInt8) : String :=
  String.ofList (Text.trim (Text.Utf8.decodeLossy bytes))

/-- What the reader of a source gets to see of a line, or of the loss of one. -/
def resultOf (name : String) : Except String (List UInt8) → Except Failure String
  | .ok bytes => .ok (lineText bytes)
  | .error detail => .error (.unreadableSource name detail)

/-- The next line of the source of the given name, or the failure in its place, and what is still to
be delivered. -/
def next? (name : String) (deliveries : List Delivery) :
    Option (Except Failure String × List Delivery) :=
  (readLine? [] deliveries).map fun (line, rest) => (resultOf name line, rest)

/-- How much is still to be delivered. -/
def remaining : List Delivery → Nat
  | [] => 0
  | .bytes bytes :: rest => bytes.length + 1 + remaining rest
  | .failure _ :: rest => 1 + remaining rest

/-- Every reading uses something up. -/
theorem remaining_of_readLine? {pending : List UInt8} {deliveries rest : List Delivery}
    {line : Except String (List UInt8)} (h : readLine? pending deliveries = some (line, rest)) :
    remaining rest < pending.length + remaining deliveries := by
  fun_induction readLine? pending deliveries with
  | case1 => cases h
  | case2 pending hpending =>
    cases h
    have hlength := List.length_pos_iff.2 (by simpa using hpending)
    simpa [remaining] using hlength
  | case3 =>
    cases h
    simp only [remaining]
    omega
  | case4 pending bytes more hnone ih =>
    have hmore := ih h
    simp only [remaining, List.length_append] at hmore ⊢
    omega
  | case5 pending bytes more feed behind hbehind =>
    cases h
    have hlength : (bytes.dropWhile (· != lineFeed)).length ≤ bytes.length :=
      (List.dropWhile_sublist _).length_le
    rw [hbehind, List.length_cons] at hlength
    simp only [remaining]
    omega

theorem remaining_of_next? {name : String} {deliveries rest : List Delivery}
    {result : Except Failure String} (h : next? name deliveries = some (result, rest)) :
    remaining rest < remaining deliveries := by
  obtain ⟨⟨line, _⟩, hline, hresult⟩ := Option.map_eq_some_iff.1 h
  cases hresult
  simpa using remaining_of_readLine? hline

/-- The lines of the source of the given name, and the failures between them, up to its end. -/
def lines (name : String) (deliveries : List Delivery) : List (Except Failure String) :=
  match h : next? name deliveries with
  | none => []
  | some (result, rest) =>
    have := remaining_of_next? h
    result :: lines name rest
termination_by remaining deliveries

end Source

end AssertionHeader
