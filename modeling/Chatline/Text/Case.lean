import Chatline.Text.Case.Lower
import Chatline.Text.Case.Fold
import Chatline.Text.Case.Title
import Chatline.Text.Case.Classes
/-!
# Letter case

Lower case, title case, and the folding that makes two spellings equal when
letter case is ignored, for every script.

Folding goes character by character. Lower case nearly does: the one letter
that looks around is the capital sigma, which has a form of its own at the
end of a word.
-/

namespace Chatline.Text

/-- A character that has case. -/
def isCased (c : Char) : Bool := inRanges casedRanges c.toNat

/-- A character that is skipped when looking for a cased neighbour. -/
def isIgnorable (c : Char) : Bool := inRanges ignorableRanges c.toNat

/-- Whether the nearest character that is not skipped has case. -/
def meetsCased (cs : List Char) : Bool :=
  match cs.dropWhile isIgnorable with
  | [] => false
  | c :: _ => isCased c

/-- The lower-case form of a character whose form does not depend on its
neighbours. -/
def lowerChar (c : Char) : List Char :=
  if c = 'İ' then ['i', '\u0307']
  else match imageOf lowerRuns c.toNat with
    | some image => [Char.ofNat image]
    | none => [c]

/-- The lower-case form of a character between two others; `before` is read
backwards. A capital sigma after a cased character and before none ends its
word. -/
def lowerBetween (before : List Char) (c : Char) (after : List Char) : List Char :=
  if c = 'Σ' then
    if meetsCased before && !meetsCased after then ['ς'] else ['σ']
  else lowerChar c

/-- The lower-case form of a text that follows `before`, read backwards. -/
def lowerFrom (before : List Char) : List Char → List Char
  | [] => []
  | c :: cs => lowerBetween before c cs ++ lowerFrom (c :: before) cs

/-- The lower-case form of a text. -/
def lower (cs : List Char) : List Char := lowerFrom [] cs

/-- What a character becomes when letter case is to be ignored. -/
def foldChar (c : Char) : List Char :=
  match expansionOf foldExpansions c.toNat with
  | some image => image.map Char.ofNat
  | none => match imageOf foldRuns c.toNat with
    | some image => [Char.ofNat image]
    | none => [c]

/-- The folded form of a text: two texts differ in letter case alone exactly
when they fold to the same text. -/
def fold (cs : List Char) : List Char := cs.flatMap foldChar

/-- The form of a character at the start of a word. -/
def titleChar (c : Char) : List Char :=
  match expansionOf titleExpansions c.toNat with
  | some image => image.map Char.ofNat
  | none => match imageOf titleRuns c.toNat with
    | some image => [Char.ofNat image]
    | none => [c]

/-- The title-case form of a text that follows `before`, read backwards: a
character right after a cased one is lowered, any other starts a word. -/
def titleFrom (before : List Char) : List Char → List Char
  | [] => []
  | c :: cs =>
    let inside := match before with
      | [] => false
      | b :: _ => isCased b
    (if inside then lowerBetween before c cs else titleChar c) ++ titleFrom (c :: before) cs

/-- The lower-case form of a string. -/
def lowered (s : String) : String := String.ofList (lower s.toList)

/-- The title-case form of a string: each word starts with a capital. -/
def titled (s : String) : String := String.ofList (titleFrom [] s.toList)

/-- Two strings that are equal up to letter case. -/
def sameFolded (s t : String) : Bool := fold s.toList == fold t.toList

end Chatline.Text
