import AssertionHeader.Proofs.Answers
import AssertionHeader.Proofs.Sections

/-!
# Sources that fail

A source may fail in the middle of a line.  `Run.readSource_lines` says what a run makes of any
source: it reports the first failure, if there is one, and has been fed the names in the lines that
were complete by then (`Source.delivered`).  Without a failure these are all lines; with one, only
those that a line feed closes.  What follows the failure is not looked at.

So a source that fails leaves a run as if it had ended with the last line feed before the failure
(`Source.keptBytes`), and lines that arrive from a source do the same as lines in memory.
-/

namespace AssertionHeader

namespace Source

/-! ## What is delivered before a failure -/

/-- Why the first delivery that failed did so. -/
def firstFailure? : List Delivery → Option String
  | [] => none
  | .bytes _ :: rest => firstFailure? rest
  | .failure detail :: _ => some detail

/-- All bytes that are delivered before the first failure. -/
def bytesBefore : List Delivery → List UInt8
  | [] => []
  | .bytes bytes :: rest => bytes ++ bytesBefore rest
  | .failure _ :: _ => []

/-- The lines that are complete before the first failure, or at the end if there is none. -/
def delivered (deliveries : List Delivery) : List String :=
  match firstFailure? deliveries with
  | none => allLines (bytesBefore deliveries)
  | some _ => closedLines (bytesBefore deliveries)

/-- The bytes of the delivered lines: a failure takes with it what follows the last line feed. -/
def keptBytes (deliveries : List Delivery) : List UInt8 :=
  match firstFailure? deliveries with
  | none => bytesBefore deliveries
  | some _ => (bytesBefore deliveries).rdropWhile (· != lineFeed)

lemma firstFailure?_eq_none_iff {deliveries : List Delivery} :
    firstFailure? deliveries = none ↔ ∀ detail, .failure detail ∉ deliveries := by
  induction deliveries with
  | nil => simp [firstFailure?]
  | cons delivery rest ih =>
    cases delivery with
    | bytes bytes => simp [firstFailure?, ih]
    | failure detail =>
      refine iff_of_false (Option.some_ne_none detail) fun h => ?_
      exact h detail List.mem_cons_self

section

variable (portions : List (List UInt8)) (rest : List Delivery)

lemma firstFailure?_portions :
    firstFailure? (portions.map .bytes ++ rest) = firstFailure? rest := by
  induction portions with
  | nil => rfl
  | cons portion others ih => exact ih

lemma bytesBefore_portions :
    bytesBefore (portions.map .bytes ++ rest) = portions.flatten ++ bytesBefore rest := by
  induction portions with
  | nil => rfl
  | cons portion others ih =>
    rw [List.map_cons, List.cons_append, bytesBefore, ih, List.flatten_cons, List.append_assoc]

end

/-- A source delivers bytes to its end, or up to a first failure. -/
lemma exists_portions (deliveries : List Delivery) :
    ∃ portions : List (List UInt8), deliveries = portions.map .bytes ∨
      ∃ detail rest, deliveries = portions.map .bytes ++ .failure detail :: rest := by
  induction deliveries with
  | nil => exact ⟨[], .inl rfl⟩
  | cons delivery others ih =>
    cases delivery with
    | failure detail => exact ⟨[], .inr ⟨detail, others, rfl⟩⟩
    | bytes bytes =>
      obtain ⟨portions, rfl | ⟨detail, rest, rfl⟩⟩ := ih
      · exact ⟨bytes :: portions, .inl rfl⟩
      · exact ⟨bytes :: portions, .inr ⟨detail, rest, rfl⟩⟩

/-! ## Lines that a failure leaves -/

/-- Behind the last line feed nothing is kept. -/
lemma rdropWhile_append_lineFeed (line rest : List UInt8) :
    (line ++ lineFeed :: rest).rdropWhile (· != lineFeed) =
      line ++ lineFeed :: rest.rdropWhile (· != lineFeed) := by
  have hkeep : (lineFeed :: line.reverse).dropWhile (· != lineFeed) = lineFeed :: line.reverse := by
    simp
  have hreverse : (line ++ lineFeed :: rest).reverse =
      rest.reverse ++ lineFeed :: line.reverse := by
    simp
  rw [List.rdropWhile, List.rdropWhile, hreverse, List.dropWhile_append, hkeep]
  split
  · next h => simp [List.isEmpty_iff.1 h]
  · simp

/-- The lines of the bytes up to the last line feed are those that a line feed closes. -/
lemma allLines_rdropWhile (bytes : List UInt8) :
    allLines (bytes.rdropWhile (· != lineFeed)) = closedLines bytes := by
  induction bytes using lineInduction with
  | last line hline =>
    have hnone : line.rdropWhile (· != lineFeed) = [] :=
      List.rdropWhile_eq_nil_iff.2 (ne_lineFeed_of_mem hline)
    rw [hnone, closedLines_of_not_mem hline]
    rfl
  | more line rest hline ih =>
    rw [rdropWhile_append_lineFeed, allLines_append_lineFeed hline, ih,
      closedLines_append_lineFeed hline]

lemma allLines_keptBytes (deliveries : List Delivery) :
    allLines (keptBytes deliveries) = delivered deliveries := by
  rw [keptBytes, delivered]
  cases firstFailure? deliveries with
  | none => rfl
  | some detail => exact allLines_rdropWhile _

-- The failure falls into the second line, so that only the first one is delivered.
example : delivered [.bytes [65, 10, 66], .failure "gone", .bytes [10]] = ["A"] ∧
    keptBytes [.bytes [65, 10, 66], .failure "gone", .bytes [10]] = [65, 10] := by
  decide

end Source

namespace Run

/-! ## Runs of sources that fail -/

/-- Lines in memory are read without a failure. -/
lemma readSource_texts (run : Run) (texts : List String) :
    run.readSource (texts.map .ok) = (none, run.feedLines texts) := by
  have hread := run.readSource_ok texts []
  rwa [List.append_nil] at hread

/-- A run is fed what is delivered before the first failure, and reports the failure. -/
lemma readSource_lines_eq (run : Run) (name : String) (deliveries : List Delivery) :
    run.readSource (Source.lines name deliveries) =
      ((Source.firstFailure? deliveries).map (.unreadableSource name),
        run.feedLines (Source.delivered deliveries)) := by
  obtain ⟨portions, rfl | ⟨detail, rest, rfl⟩⟩ := Source.exists_portions deliveries
  · have hfailure := Source.firstFailure?_portions portions []
    have hbytes := Source.bytesBefore_portions portions []
    rw [List.append_nil] at hfailure hbytes
    rw [Source.delivered, hfailure, hbytes, Source.lines_bytes, readSource_texts]
    simp [Source.firstFailure?, Source.bytesBefore]
  · rw [Source.delivered, Source.firstFailure?_portions, Source.bytesBefore_portions,
      Source.lines_failure, readSource_ok]
    simp [Source.firstFailure?, Source.bytesBefore, readSource]

/-- **A source that fails leaves a run as if it had ended before the failing line.**  Whatever was
read before and whatever the source delivers, in whatever portions,

* the run reports a failure exactly if a delivery fails: the first one, with its reason and the name
  of the source;
* it has been fed, in their order, the names in the lines that were complete before the failure;
* it would have come to the same state, without a failure, through a source that delivers the bytes
  of these lines and ends, or through these lines in memory;
* whatever it reads then from another source, or is fed as a name, comes behind these lines. -/
theorem readSource_lines (run : Run) (name : String) (deliveries : List Delivery) :
    let failure? := Source.firstFailure? deliveries
    let delivered := Source.delivered deliveries
    let after := run.feedAll (candidates delivered)
    run.readSource (Source.lines name deliveries) = (failure?.map (.unreadableSource name), after) ∧
    (failure? = none ↔ ∀ detail, .failure detail ∉ deliveries) ∧
    (run.readSource (Source.lines name deliveries)).1.map Failure.message =
      failure?.map ("failed to read tokens from " ++ name ++ ": " ++ ·) ∧
    run.readSource (Source.lines name [.bytes (Source.keptBytes deliveries)]) = (none, after) ∧
    run.readSource (delivered.map .ok) = (none, after) ∧
    (∀ other more, after.readSource (Source.lines other more) =
      run.readSource (delivered.map .ok ++ Source.lines other more)) ∧
    ∀ later, after.feedAll later = run.feedAll (candidates delivered ++ later) := by
  intro failure? delivered after
  have hafter : run.feedLines delivered = after := feedLines_eq_feedAll run delivered
  have hread : run.readSource (Source.lines name deliveries) =
      (failure?.map (.unreadableSource name), after) := by
    rw [readSource_lines_eq, ← hafter]
  have hkept : Source.lines name [.bytes (Source.keptBytes deliveries)] = delivered.map .ok := by
    have hlines := Source.lines_bytes name [Source.keptBytes deliveries]
    rw [List.map_singleton, List.flatten_singleton, Source.allLines_keptBytes] at hlines
    exact hlines
  refine ⟨hread, Source.firstFailure?_eq_none_iff, ?_, ?_, ?_, ?_, ?_⟩
  · rw [hread, Option.map_map]
    rfl
  · rw [hkept, readSource_texts, hafter]
  · rw [readSource_texts, hafter]
  · intro other more
    rw [readSource_ok, hafter]
  · intro later
    rw [feedAll_append]

end Run

end AssertionHeader
