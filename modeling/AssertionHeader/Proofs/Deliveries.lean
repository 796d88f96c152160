import AssertionHeader.Proofs.Decoding
import Mathlib.Data.List.TakeWhile

/-!
# Lines, however they are delivered

The reader of a source sees lines and failures, and nothing of the portions that the bytes arrive
in.  `lines_interrupted` says which lines they are.  Between two failures, they are the pieces of
the text that all bytes together encode, cut at its line feeds (`pieces`).  The last piece has no
line feed behind it.  A failure loses it (`closedLines`); at the end of the source it is a line like
the others, unless it is empty (`allLines`).
-/

namespace AssertionHeader

/-! ## Blanks at the end -/

namespace Text

lemma trim_concat {text : List Char} {c : Char} (h : isBlank c = true) :
    trim (text ++ [c]) = trim text := by
  have hend : ∀ start : List Char, trimEnd (start ++ [c]) = trimEnd start := by
    intro start
    simp [trimEnd, h]
  rw [trim, List.dropWhile_append]
  by_cases hall : (text.dropWhile isBlank).isEmpty = true
  · rw [if_pos hall, trim, List.isEmpty_iff.1 hall]
    simp [h]
  · rw [if_neg hall, hend, trim]

end Text

namespace Source

/-! ## The lines of a text -/

/-- The text that bytes encode, cut at its line feeds. -/
def pieces (bytes : List UInt8) : List (List Char) :=
  (Text.Utf8.decodeLossy bytes).splitOn '\n'

/-- A piece without the blanks at its ends. -/
def trimmed (piece : List Char) : String :=
  String.ofList (Text.trim piece)

/-- The lines that a line feed closes. -/
def closedLines (bytes : List UInt8) : List String :=
  (pieces bytes).dropLast.map trimmed

/-- The lines of bytes behind which nothing comes.  An empty piece behind the last line feed is no
line. -/
def allLines (bytes : List UInt8) : List String :=
  (if (pieces bytes).getLast? = some [] then (pieces bytes).dropLast else pieces bytes).map trimmed

/-- Bytes are a line without a line feed, or such a line and further bytes behind its line feed. -/
@[elab_as_elim]
theorem lineInduction {motive : List UInt8 → Prop}
    (last : ∀ line, lineFeed ∉ line → motive line)
    (more : ∀ line rest, lineFeed ∉ line → motive rest → motive (line ++ lineFeed :: rest))
    (bytes : List UInt8) : motive bytes := by
  induction hlength : bytes.length using Nat.strong_induction_on generalizing bytes with
  | _ length ih =>
    by_cases h : lineFeed ∈ bytes
    · obtain ⟨line, rest, rfl, hline⟩ := List.eq_append_cons_of_mem h
      refine more line rest hline (ih rest.length ?_ rest rfl)
      simp only [List.length_append, List.length_cons] at hlength
      omega
    · exact last bytes h

section

variable {line : List UInt8} (h : lineFeed ∉ line)

include h

lemma pieces_of_not_mem : pieces line = [Text.Utf8.decodeLossy line] := by
  rw [pieces, List.splitOn_eq_singleton (Text.Utf8.not_mem_decodeLossy h)]

lemma pieces_append_lineFeed (rest : List UInt8) :
    pieces (line ++ lineFeed :: rest) = Text.Utf8.decodeLossy line :: pieces rest := by
  rw [pieces, Text.Utf8.decodeLossy_append_lineFeed,
    List.splitOn_append_cons_self_of_not_mem (Text.Utf8.not_mem_decodeLossy h), pieces]

lemma closedLines_of_not_mem : closedLines line = [] := by
  rw [closedLines, pieces_of_not_mem h]
  rfl

lemma closedLines_append_lineFeed (rest : List UInt8) :
    closedLines (line ++ lineFeed :: rest) = lineText line :: closedLines rest := by
  have hrest : pieces rest ≠ [] := List.splitOn_ne_nil _ _
  rw [closedLines, pieces_append_lineFeed h, List.dropLast_cons_of_ne_nil hrest, List.map_cons]
  rfl

lemma allLines_of_not_mem : allLines line = if line = [] then [] else [lineText line] := by
  rw [allLines, pieces_of_not_mem h, List.getLast?_singleton]
  simp only [Option.some.injEq, Text.Utf8.decodeLossy_eq_nil_iff]
  split <;> rfl

lemma allLines_append_lineFeed (rest : List UInt8) :
    allLines (line ++ lineFeed :: rest) = lineText line :: allLines rest := by
  obtain ⟨first, others, hrest⟩ : ∃ first others, pieces rest = first :: others :=
    List.exists_cons_of_ne_nil (List.splitOn_ne_nil _ _)
  rw [allLines, allLines, pieces_append_lineFeed h, hrest, List.getLast?_cons_cons,
    List.dropLast_cons_of_ne_nil (List.cons_ne_nil _ _), apply_ite (List.map trimmed),
    apply_ite (List.map trimmed), apply_ite (List.cons (lineText line))]
  rfl

end

/-- The line feed of a line is trimmed with its blanks. -/
lemma lineText_concat_lineFeed (line : List UInt8) :
    lineText (line ++ [lineFeed]) = lineText line := by
  have hdecode : Text.Utf8.decodeLossy (line ++ [lineFeed]) =
      Text.Utf8.decodeLossy line ++ ['\n'] :=
    Text.Utf8.decodeLossy_append_lineFeed line []
  rw [lineText, hdecode, Text.trim_concat (by decide), lineText]

/-- Whether bytes are cut before they are decoded or after does not matter. -/
lemma pieces_eq (bytes : List UInt8) :
    pieces bytes = (bytes.splitOn lineFeed).map Text.Utf8.decodeLossy := by
  induction bytes using lineInduction with
  | last line h => rw [pieces_of_not_mem h, List.splitOn_eq_singleton h, List.map_singleton]
  | more line rest h ih =>
    rw [pieces_append_lineFeed h, ih, List.splitOn_append_cons_self_of_not_mem h, List.map_cons]

/-! ## Reading one line -/

section

variable {line : List UInt8} (h : lineFeed ∉ line)

include h

lemma ne_lineFeed_of_mem : ∀ b ∈ line, (b != lineFeed) = true := by
  intro b hb
  rw [bne_iff_ne]
  rintro rfl
  exact h hb

lemma takeWhile_append_lineFeed (rest : List UInt8) :
    (line ++ lineFeed :: rest).takeWhile (· != lineFeed) = line := by
  rw [List.takeWhile_append_of_pos (ne_lineFeed_of_mem h)]
  simp

lemma dropWhile_append_lineFeed (rest : List UInt8) :
    (line ++ lineFeed :: rest).dropWhile (· != lineFeed) = lineFeed :: rest := by
  rw [List.dropWhile_append_of_pos (ne_lineFeed_of_mem h)]
  simp

lemma readLine?_bytes_of_not_mem (pending : List UInt8) (rest : List Delivery) :
    readLine? pending (.bytes line :: rest) = readLine? (pending ++ line) rest := by
  have hnone : line.dropWhile (· != lineFeed) = [] := by
    rw [List.dropWhile_eq_nil_iff]
    exact ne_lineFeed_of_mem h
  rw [readLine?, hnone]

lemma readLine?_bytes_append_lineFeed (pending behind : List UInt8) (rest : List Delivery) :
    readLine? pending (.bytes (line ++ lineFeed :: behind) :: rest) =
      some (.ok (pending ++ line ++ [lineFeed]), .bytes behind :: rest) := by
  rw [readLine?, dropWhile_append_lineFeed h, takeWhile_append_lineFeed h]

end

/-- Portions without a line feed are read up like one. -/
lemma readLine?_portions_of_not_mem {portions : List (List UInt8)}
    (h : lineFeed ∉ portions.flatten) (pending : List UInt8) (rest : List Delivery) :
    readLine? pending (portions.map .bytes ++ rest) =
      readLine? (pending ++ portions.flatten) rest := by
  induction portions generalizing pending with
  | nil => simp
  | cons portion others ih =>
    rw [List.flatten_cons, List.mem_append, not_or] at h
    rw [List.map_cons, List.cons_append, readLine?_bytes_of_not_mem h.1, ih h.2,
      List.flatten_cons, List.append_assoc]

/-- A line that is closed ends the reading, in whichever portion its line feed arrives. -/
lemma readLine?_portions {portions : List (List UInt8)} {line behind : List UInt8}
    (hline : lineFeed ∉ line) (h : portions.flatten = line ++ lineFeed :: behind)
    (pending : List UInt8) (rest : List Delivery) :
    ∃ others : List (List UInt8), others.flatten = behind ∧
      readLine? pending (portions.map .bytes ++ rest) =
        some (.ok (pending ++ line ++ [lineFeed]), others.map .bytes ++ rest) := by
  induction portions generalizing pending line with
  | nil => simp at h
  | cons portion others ih =>
    rw [List.flatten_cons] at h
    have htake : (portion ++ others.flatten).takeWhile (· != lineFeed) = line := by
      rw [h, takeWhile_append_lineFeed hline]
    have hdrop : (portion ++ others.flatten).dropWhile (· != lineFeed) = lineFeed :: behind := by
      rw [h, dropWhile_append_lineFeed hline]
    rw [List.map_cons, List.cons_append]
    by_cases hportion : lineFeed ∈ portion
    · obtain ⟨start, tail, rfl, hstart⟩ := List.eq_append_cons_of_mem hportion
      rw [List.append_assoc, List.cons_append, takeWhile_append_lineFeed hstart] at htake
      rw [List.append_assoc, List.cons_append, dropWhile_append_lineFeed hstart,
        List.cons_inj_right] at hdrop
      refine ⟨tail :: others, hdrop, ?_⟩
      rw [readLine?_bytes_append_lineFeed hstart, htake]
      rfl
    · have hbehind : lineFeed ∈ others.flatten := by
        have hmem : lineFeed ∈ portion ++ others.flatten := by simp [h]
        exact (List.mem_append.1 hmem).resolve_left hportion
      obtain ⟨middle, tail, hothers, hmiddle⟩ := List.eq_append_cons_of_mem hbehind
      have hstart : lineFeed ∉ portion ++ middle := by simp [hportion, hmiddle]
      rw [hothers, ← List.append_assoc, takeWhile_append_lineFeed hstart] at htake
      rw [hothers, ← List.append_assoc, dropWhile_append_lineFeed hstart,
        List.cons_inj_right] at hdrop
      obtain ⟨left, hleft, hread⟩ := ih hmiddle (hdrop ▸ hothers) (pending ++ portion)
      refine ⟨left, hleft, ?_⟩
      rw [readLine?_bytes_of_not_mem hportion, hread, ← htake, List.append_assoc pending]

/-! ## Reading all lines -/

section

variable {name : String} {deliveries rest : List Delivery} {line : Except String (List UInt8)}

lemma lines_of_some (h : readLine? [] deliveries = some (line, rest)) :
    lines name deliveries = resultOf name line :: lines name rest := by
  have hnext : next? name deliveries = some (resultOf name line, rest) := by
    rw [next?, h]
    rfl
  rw [lines]
  split
  · next hnone => rw [hnext] at hnone; cases hnone
  · next result others hsome => rw [hnext] at hsome; cases hsome; rfl

lemma lines_of_none (h : readLine? [] deliveries = none) : lines name deliveries = [] := by
  have hnext : next? name deliveries = none := by
    rw [next?, h]
    rfl
  rw [lines]
  split
  · rfl
  · next result others hsome => rw [hnext] at hsome; cases hsome

/-- Only what is read matters. -/
lemma lines_congr {others : List Delivery} (h : readLine? [] deliveries = readLine? [] others) :
    lines name deliveries = lines name others := by
  cases hread : readLine? [] deliveries with
  | none => rw [lines_of_none hread, lines_of_none (h.symm.trans hread)]
  | some pair => rw [lines_of_some hread, lines_of_some (h.symm.trans hread)]

end

variable (name : String)

/-- The closed lines of portions are read one by one.  What is then left behaves like a single
portion without a line feed. -/
lemma lines_portions (bytes : List UInt8) (portions : List (List UInt8)) (rest : List Delivery)
    (h : portions.flatten = bytes) :
    ∃ last, lineFeed ∉ last ∧
      lines name (portions.map .bytes ++ rest) =
        (closedLines bytes).map .ok ++ lines name (.bytes last :: rest) ∧
      allLines bytes = closedLines bytes ++ allLines last := by
  induction bytes using lineInduction generalizing portions with
  | last line hline =>
    subst h
    refine ⟨_, hline, ?_, ?_⟩
    · rw [closedLines_of_not_mem hline, List.map_nil, List.nil_append]
      apply lines_congr
      rw [readLine?_portions_of_not_mem hline, readLine?_bytes_of_not_mem hline]
    · rw [closedLines_of_not_mem hline, List.nil_append]
  | more line behind hline ih =>
    obtain ⟨others, hothers, hread⟩ := readLine?_portions hline h [] rest
    obtain ⟨last, hlast, hlines, hall⟩ := ih others hothers
    refine ⟨last, hlast, ?_, ?_⟩
    · have hresult : resultOf name (.ok ([] ++ line ++ [lineFeed])) = .ok (lineText line) :=
        congrArg Except.ok (lineText_concat_lineFeed line)
      rw [lines_of_some hread, hlines, hresult, closedLines_append_lineFeed hline]
      rfl
    · rw [allLines_append_lineFeed hline, hall, closedLines_append_lineFeed hline]
      rfl

/-- At the end of a source, all lines have been read. -/
lemma lines_bytes (portions : List (List UInt8)) :
    lines name (portions.map .bytes) = (allLines portions.flatten).map .ok := by
  obtain ⟨last, hlast, hlines, hall⟩ := lines_portions name _ portions [] rfl
  have hend : lines name [.bytes last] = (allLines last).map .ok := by
    have hread : readLine? [] [.bytes last] = if last = [] then none else some (.ok last, []) := by
      rw [readLine?_bytes_of_not_mem hlast, List.nil_append, readLine?]
      simp only [List.isEmpty_iff]
    rw [allLines_of_not_mem hlast]
    by_cases hempty : last = []
    · rw [if_pos hempty] at hread ⊢
      exact lines_of_none hread
    · rw [if_neg hempty] at hread ⊢
      rw [lines_of_some hread, lines_of_none rfl]
      rfl
  rw [List.append_nil] at hlines
  rw [hlines, hend, hall, List.map_append]

/-- A failure loses the line that it interrupts, and reading goes on behind it. -/
lemma lines_failure (portions : List (List UInt8)) (detail : String) (rest : List Delivery) :
    lines name (portions.map .bytes ++ .failure detail :: rest) =
      (closedLines portions.flatten).map .ok ++
        .error (.unreadableSource name detail) :: lines name rest := by
  obtain ⟨last, hlast, hlines, -⟩ := lines_portions name _ portions (.failure detail :: rest) rfl
  have hread : readLine? [] (.bytes last :: .failure detail :: rest) =
      some (.error detail, rest) := by
    rw [readLine?_bytes_of_not_mem hlast]
    rfl
  rw [hlines, lines_of_some hread]
  rfl

/-! ## Sources with failures -/

/-- What is delivered up to a failure: bytes in portions, and why no more of them came. -/
structure Interrupted where
  portions : List (List UInt8)
  detail : String

def Interrupted.deliveries (interrupted : Interrupted) : List Delivery :=
  interrupted.portions.map .bytes ++ [.failure interrupted.detail]

/-- What a reader is told up to a failure: the closed lines, and the failure. -/
def Interrupted.results (interrupted : Interrupted) : List (Except String String) :=
  (closedLines interrupted.portions.flatten).map .ok ++
    [.error ("failed to read tokens from " ++ name ++ ": " ++ interrupted.detail)]

/-- Failures divide what is delivered. -/
lemma exists_interrupted (deliveries : List Delivery) :
    ∃ (stretches : List Interrupted) (portions : List (List UInt8)),
      deliveries = stretches.flatMap (·.deliveries) ++ portions.map .bytes := by
  induction deliveries with
  | nil => exact ⟨[], [], rfl⟩
  | cons delivery rest ih =>
    obtain ⟨stretches, portions, rfl⟩ := ih
    cases delivery with
    | failure detail => exact ⟨⟨[], detail⟩ :: stretches, portions, rfl⟩
    | bytes bytes =>
      cases stretches with
      | nil => exact ⟨[], bytes :: portions, rfl⟩
      | cons first others =>
        exact ⟨⟨bytes :: first.portions, first.detail⟩ :: others, portions, rfl⟩

/-- **Lines do not depend on how their bytes are delivered.**  Whatever is delivered consists of
portions of bytes, divided by failures.  Of the bytes before a failure, however they are portioned,
the closed lines are read and then the failure; of the bytes behind the last failure, all lines are
read.  The lines are those of the text that the bytes encode together, and decoding them one by one
gives the same. -/
theorem lines_interrupted :
    (∀ deliveries, ∃ (stretches : List Interrupted) (portions : List (List UInt8)),
      deliveries = stretches.flatMap (·.deliveries) ++ portions.map .bytes) ∧
    (∀ (stretches : List Interrupted) (portions : List (List UInt8)),
      (lines name (stretches.flatMap (·.deliveries) ++ portions.map .bytes)).map
          (·.mapError Failure.message) =
        stretches.flatMap (·.results name) ++ (allLines portions.flatten).map .ok) ∧
    ∀ bytes, pieces bytes = (bytes.splitOn lineFeed).map Text.Utf8.decodeLossy := by
  refine ⟨exists_interrupted, fun stretches portions => ?_, pieces_eq⟩
  have hok : ∀ texts : List String, (texts.map Except.ok).map (Except.mapError Failure.message) =
      texts.map .ok := by
    intro texts
    rw [List.map_map]
    rfl
  induction stretches with
  | nil =>
    rw [List.flatMap_nil, List.nil_append, lines_bytes, hok]
    rfl
  | cons first others ih =>
    have hsplit : (first :: others).flatMap (·.deliveries) ++ portions.map .bytes =
        first.portions.map .bytes ++
          .failure first.detail :: (others.flatMap (·.deliveries) ++ portions.map .bytes) := by
      simp [Interrupted.deliveries]
    rw [hsplit, lines_failure, List.map_append, hok, List.map_cons, ih, List.flatMap_cons,
      Interrupted.results, List.append_assoc, List.append_assoc]
    rfl

end Source

end AssertionHeader
