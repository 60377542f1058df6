import Chatline.Text.Digit
/-!
# Patterns

A pattern is a row of pieces, each a class of characters with the least and
the greatest number of them. A text fits a pattern when it can be cut into
stretches that fit the pieces one by one; any cut will do.
-/

namespace Chatline

/-- A stretch of characters of one class. -/
structure Piece where
  /-- The characters of the stretch. -/
  allows : Char → Bool
  /-- The least number of characters. -/
  least : Nat
  /-- The greatest number of characters, if there is one. -/
  most : Option Nat

namespace Piece

/-- Exactly one character of a class. -/
def one (allows : Char → Bool) : Piece := ⟨allows, 1, some 1⟩

/-- One or more characters of a class. -/
def some (allows : Char → Bool) : Piece := ⟨allows, 1, none⟩

/-- Any number of characters of a class. -/
def many (allows : Char → Bool) : Piece := ⟨allows, 0, none⟩

/-- The greatest number of characters that the piece can take from the front
of a text. -/
def reach (piece : Piece) (cs : List Char) : Nat :=
  let run := (cs.takeWhile piece.allows).length
  match piece.most with
  | none => run
  | Option.some most => min run most

end Piece

/-- A row of pieces. -/
abbrev Pattern := List Piece

namespace Pattern

/-- Whether a text can be cut into stretches that fit the pieces. -/
def fits : Pattern → List Char → Bool
  | [], cs => cs.isEmpty
  | piece :: pieces, cs =>
    (List.range (piece.reach cs + 1)).any fun size =>
      piece.least ≤ size && fits pieces (cs.drop size)

/-- An ASCII letter. -/
def isLetter (c : Char) : Bool := ('a' ≤ c && c ≤ 'z') || ('A' ≤ c && c ≤ 'Z')

/-- A letter of a class that ignores case: an ASCII letter, or one of the four
other characters with an ASCII letter among their case variants. -/
def isCaselessLetter (c : Char) : Bool :=
  isLetter c || c == 'İ' || c == 'ı' || c == 'ſ' || c == '\u212A'

/-- An ASCII digit. -/
def isAsciiDigit (c : Char) : Bool := '0' ≤ c && c ≤ '9'

/-- A whole number: decimal digits of any script, with or without a minus. -/
def wholeNumber : Pattern := [⟨(· == '-'), 0, some 1⟩, Piece.some Text.isDigit]

/-- A character of the part of an e-mail address before the at sign. -/
def isMailbox (c : Char) : Bool := isCaselessLetter c || isAsciiDigit c || "._%+-".toList.contains c

/-- A character of the domain of an e-mail address. -/
def isDomain (c : Char) : Bool := isCaselessLetter c || isAsciiDigit c || ".-".toList.contains c

/-- An e-mail address. -/
def mailAddress : Pattern :=
  [Piece.some isMailbox, Piece.one (· == '@'), Piece.one isCaselessLetter, Piece.some isDomain,
   Piece.one (· == '.'), ⟨isCaselessLetter, 2, some 26⟩]

/-- An ASCII letter followed by ASCII letters and digits. -/
def alphanumeric : Pattern :=
  [Piece.one isLetter, Piece.many fun c => isLetter c || isAsciiDigit c]

end Pattern

end Chatline
