import Chatline.Grammar
import Chatline.Text.Alternatives
/-!
# Usage lines

A grammar is written back in bracket notation: `<required>`, `[optional]`, and
the options of an enum as `[read|clear|send <user> <message>]`. Names are
lowered. What a slot owns stands inside its brackets, after its name, and what
an option owns stands after the option.
-/

namespace Chatline

namespace Grammar

/-- The texts with a separator between each two of them. -/
def join (separator : List Char) (texts : List (List Char)) : List Char :=
  separator.intercalate texts

/-- A text in the brackets of an optional or required slot. -/
def bracket (optional : Bool) (interior : List Char) : List Char :=
  if optional then '[' :: interior ++ [']'] else '<' :: interior ++ ['>']

/-- The name of a slot as it is written in usage lines. -/
def label (slot : Slot) : List Char := Text.lower slot.name.toList

mutual

/-- The sibling slots, each in its brackets. -/
def fragments : Grammar → List (List Char)
  | nil => []
  | cons _ slot children rest =>
    let interior :=
      if slot.isEnum then join ['|'] (choices children)
      else if children.isEmpty then label slot
      else label slot ++ ' ' :: join [' '] (fragments children)
    bracket slot.optional interior :: fragments rest

/-- The options of an enum, each with what it owns. -/
def choices : Grammar → List (List Char)
  | nil => []
  | cons _ option children rest =>
    (if children.isEmpty then label option
      else label option ++ ' ' :: join [' '] (fragments children)) :: choices rest

end

/-- The sibling slots in bracket notation. -/
def render (grammar : Grammar) : String := String.ofList (join [' '] grammar.fragments)

/-- A text with the grammar after it, if there is any. -/
def renderAfter (head : String) (grammar : Grammar) : String :=
  if grammar.isEmpty then head else head ++ " " ++ grammar.render

/-- An option in quotes, marked if it is the default. -/
def quotedOption (default : String) (option : Slot) : String :=
  if default ≠ "" && Text.sameFolded option.name default then
    "'" ++ option.name ++ "' (default)"
  else "'" ++ option.name ++ "'"

/-- The options of an enum in one phrase, the default marked. -/
def optionPhrase (slot : Slot) (children : Grammar) : String :=
  Text.alternatives (children.siblings.map (quotedOption slot.fallback))

/-- The options of a slot in one phrase; a slot that is no enum has none. -/
def enumerateOptions (slot : Slot) (children : Grammar) : Except Failure String :=
  if slot.isEnum then .ok (optionPhrase slot children) else .error (.notAnEnum slot.name)

end Grammar

end Chatline
