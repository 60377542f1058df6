/-!
# Alternatives in a sentence

Messages list what was possible as `'a', 'b', or 'c'`. The word before the
last item has its comma also when there are two items.
-/

namespace Chatline.Text

/-- The items in one phrase: a comma after each but the last, and `or` before
the last of several. -/
def alternatives : List String → String
  | [] => ""
  | [item] => item
  | [item, last] => item ++ ", or " ++ last
  | item :: items => item ++ ", " ++ alternatives items

end Chatline.Text
