import Chatline.Routine
import Chatline.Text.Case
/-!
# Suggestions

When a word calls no command, a suggester may name aliases that were meant. The
built-in one keeps, for each command, the first alias that is related to the
lowered word: by its beginning, by its end, or by its outer characters.
-/

namespace Chatline

namespace Affix

/-- Whether an alias is related to a word: it starts with the word or with the
word's first two characters, it ends with the last two characters of a word of
three or more, or it has the first and last character of the word. -/
def related (called word : List Char) : Bool :=
  match word with
  | [] => false
  | first :: _ =>
    word.isPrefixOf called ||
      (2 ≤ word.length && (word.take 2).isPrefixOf called) ||
      (2 < word.length && (word.drop (word.length - 2)).isSuffixOf called) ||
      ([first].isPrefixOf called && (word.drop (word.length - 1)).isSuffixOf called)

/-- The first alias of each command that is related to the lowered word. -/
def suggest (word : String) (commands : List Signature) : List String :=
  commands.filterMap fun command =>
    command.aliases.find? fun called => related called.toList (Text.lower word.toList)

end Affix

/-- What names the aliases that may have been meant. -/
inductive Suggester where
  /-- The built-in suggester. -/
  | affix
  /-- A suggester of the host's: its result is gone through item by item. -/
  | custom (ask : Datum → List Signature → Routine Datum)

end Chatline
