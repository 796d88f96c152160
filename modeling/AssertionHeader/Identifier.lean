/-!
# C identifiers

An identifier is a letter or underscore followed by letters, digits and underscores.  Letters and
digits are those of ASCII, as in the portable subset of C.
-/

namespace AssertionHeader.Identifier

def isStart (c : Char) : Bool :=
  c.isAlpha || c == '_'

def isPart (c : Char) : Bool :=
  c.isAlphanum || c == '_'

def isIdentifier : List Char → Bool
  | [] => false
  | c :: rest => isStart c && rest.all isPart

theorem isPart_of_isStart {c : Char} (h : isStart c = true) : isPart c = true := by
  simp only [isStart, isPart, Char.isAlphanum, Bool.or_eq_true] at *
  exact h.imp_left Or.inl

theorem all_isPart_of_isIdentifier {text : List Char} (h : isIdentifier text = true) :
    text.all isPart = true := by
  cases text with
  | nil => rfl
  | cons c rest =>
    simp only [isIdentifier, Bool.and_eq_true] at h
    simp [isPart_of_isStart h.1, h.2]

theorem isPart_of_mem {text : List Char} (h : isIdentifier text = true) {c : Char} (hc : c ∈ text) :
    isPart c = true :=
  List.all_eq_true.1 (all_isPart_of_isIdentifier h) c hc

theorem isIdentifier_append {front rest : List Char} (hfront : isIdentifier front = true)
    (hrest : rest.all isPart = true) : isIdentifier (front ++ rest) = true := by
  cases front with
  | nil => cases hfront
  | cons c others =>
    simp only [isIdentifier, Bool.and_eq_true] at hfront
    simp [isIdentifier, hfront, hrest]

end AssertionHeader.Identifier
