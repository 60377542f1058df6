import Chatline.Slot
/-!
# Bracket notation

A flat grammar can be written as words in brackets: `<name>` is a required
slot, `[name]` an optional one, and `[name](value)` an optional one with a
default. The words are read from left to right, and the first that cannot be
read is the one that is reported.
-/

namespace Chatline.Notation

/-- A character that has a meaning of its own in bracket notation. -/
def isBracket (c : Char) : Bool := "<>[]()".toList.contains c

/-- A word of bracket notation, taken apart. -/
structure Word where
  /-- Whether the brackets are square. -/
  optional : Bool
  /-- What the brackets hold. -/
  name : List Char
  /-- What the parentheses after the brackets hold; empty without them. -/
  default : List Char
deriving Repr, DecidableEq

/-- What follows the brackets: nothing, or a value in parentheses. -/
def default? : List Char → Option (List Char)
  | [] => some []
  | '(' :: cs =>
    let value := cs.takeWhile fun c => c ≠ '(' && c ≠ ')'
    if cs.drop value.length = [')'] then some value else none
  | _ => none

/-- A name, the bracket that closes it and what may follow that. -/
def closing? (optional : Bool) (bracket : Char) (cs : List Char) : Option Word :=
  let name := cs.takeWhile (!isBracket ·)
  match cs.drop name.length with
  | [] => none
  | c :: rest =>
    if c = bracket then (default? rest).map fun default => ⟨optional, name, default⟩ else none

/-- Takes a word of bracket notation apart. -/
def word? : List Char → Option Word
  | '<' :: cs => closing? false '>' cs
  | '[' :: cs => closing? true ']' cs
  | _ => none

/-- The slot of a word that stands at a position. -/
def slotOf (position : Nat) (word : Word) : Except BuildError Slot :=
  let name := Text.strip word.name
  if name = [] then .error (.unnamedBrackets position)
  else
    let slot : Slot := { name := String.ofList name, optional := word.optional }
    if word.default = [] then .ok slot
    else if !word.optional then .error (.requiredForbidsDefault slot.name)
    else
      let value := String.ofList word.default
      .ok { slot with default := some value, value }

/-- Reads words from a position on; `before` are the slots of the earlier
words. -/
def readWords (position : Nat) (before : List Slot) :
    List (List Char) → Except BuildError (List Slot)
  | [] => .ok []
  | cs :: words =>
    match word? cs with
    | none => .error (.malformedWord (String.ofList cs))
    | some word => do
      let slot ← slotOf position word
      Slot.checkOrder .inferred before slot
      let slots ← readWords (position + 1) (before ++ [slot]) words
      return slot :: slots

/-- The slots of a grammar in bracket notation. -/
def read (text : String) : Except BuildError (List Slot) :=
  match Text.words text.toList with
  | [] => .error .emptyNotation
  | words => readWords 1 [] words

end Chatline.Notation
