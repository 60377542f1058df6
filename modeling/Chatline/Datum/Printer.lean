import Chatline.Datum
import Chatline.Floating.Printer
import Chatline.Text.Quoted
/-!
# Printing host data

Each value has two printed forms. `Datum.shown` is unambiguous and quotes its
texts; `Datum.display` is for sentences, where a text stands for itself.
-/

namespace Chatline

namespace Datum

mutual

/-- The unambiguous form of a value. -/
def shown : Datum → String
  | null => "None"
  | bool b => if b then "True" else "False"
  | int n => toString n
  | floating x => x.text
  | text s => Text.quoted s
  | list items => Text.bracketed (shownItems items)
  | tuple [item] => "(" ++ shown item ++ ",)"
  | tuple items => "(" ++ ", ".intercalate (shownItems items) ++ ")"
  | set [] => "set()"
  | set items => "\x7b" ++ ", ".intercalate (shownItems items) ++ "\x7d"
  | map entries => "\x7b" ++ ", ".intercalate (shownEntries entries) ++ "\x7d"
  | unset => "Unset"

/-- The unambiguous forms of some values. -/
def shownItems : List Datum → List String
  | [] => []
  | item :: items => shown item :: shownItems items

/-- The unambiguous forms of some entries. -/
def shownEntries : List (Datum × Datum) → List String
  | [] => []
  | (key, value) :: entries => (shown key ++ ": " ++ shown value) :: shownEntries entries

end

/-- The form of a value in a sentence: a text stands for itself. -/
def display : Datum → String
  | text s => s
  | value => value.shown

end Datum

end Chatline
