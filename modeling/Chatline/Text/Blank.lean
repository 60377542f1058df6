/-!
# Blank characters

A character is blank when it only separates words: the ASCII separators, the
next-line mark, and the spaces and line breaks of other scripts. Stripping,
splitting into words and the tokenizer all read this one set.
-/

namespace Chatline.Text

/-- A character that only separates words. The zero-width marks U+180E,
U+200B, U+2060 and U+FEFF are not blank. -/
def isBlank (c : Char) : Bool :=
  let n := c.toNat
  (0x09 ≤ n && n ≤ 0x0D) || (0x1C ≤ n && n ≤ 0x20) || n == 0x85 || n == 0xA0 || n == 0x1680 ||
    (0x2000 ≤ n && n ≤ 0x200A) || n == 0x2028 || n == 0x2029 || n == 0x202F || n == 0x205F ||
    n == 0x3000

/-- The text without its leading blanks. -/
def stripLeft (cs : List Char) : List Char := cs.dropWhile isBlank

/-- The text without its trailing blanks. -/
def stripRight (cs : List Char) : List Char := (cs.reverse.dropWhile isBlank).reverse

/-- The text without the blanks at its two ends. -/
def strip (cs : List Char) : List Char := stripRight (stripLeft cs)

/-- The words of a text whose first characters, `word` in reverse, have been
read already. -/
def wordsFrom (word : List Char) : List Char → List (List Char)
  | [] => if word.isEmpty then [] else [word.reverse]
  | c :: cs =>
    if isBlank c then
      if word.isEmpty then wordsFrom [] cs else word.reverse :: wordsFrom [] cs
    else wordsFrom (c :: word) cs

/-- The maximal runs of characters that are not blank, in order. -/
def words (cs : List Char) : List (List Char) := wordsFrom [] cs

/-- A string without the blanks at its two ends. -/
def stripped (s : String) : String := String.ofList (strip s.toList)

end Chatline.Text
