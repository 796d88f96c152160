import AssertionHeader.Text.Quoted

/-!
# Messages

A message is text with macro operands in it.  Documentation shows an operand by its name.  A failure
message shows the source text of the argument that the caller gave for it, in single quotes, by the
preprocessor's operator `#`.
-/

namespace AssertionHeader

inductive Piece where
  /-- Text that stands for itself. -/
  | text (text : String)
  | operand (name : String)
  deriving DecidableEq, Repr

/-- Text with macro operands in it. -/
abbrev Message := List Piece

namespace Message

/-- The message with each operand shown by its name. -/
def plain (message : Message) : String :=
  String.join <| message.map fun
    | .text text => text
    | .operand name => name

/-- The string literals and stringified operands that spell `pending` and then the message. -/
def literalParts (pending : String) : Message → List String
  | [] => [Text.quote pending]
  | .text text :: rest => literalParts (pending ++ text) rest
  | .operand name :: rest =>
    Text.quote (pending ++ "\x27") :: ("#" ++ name) :: literalParts "\x27" rest

/-- The message as C string literals and stringified operands, which the compiler concatenates. -/
def literal (message : Message) : String :=
  " ".intercalate (literalParts "" message)

theorem literalParts_ne_nil (pending : String) (message : Message) :
    literalParts pending message ≠ [] := by
  induction message generalizing pending with
  | nil => simp [literalParts]
  | cons piece rest ih => cases piece <;> simp [literalParts, ih]

end Message

end AssertionHeader
