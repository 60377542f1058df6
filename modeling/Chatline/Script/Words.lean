import Chatline.Hub.Dispatch
/-!
# Words that need not be texts

A host may match a list of any values against a grammar. The match goes on as
with texts until it comes to a value that is no text, and there it fails: at the
slot that wants the value, or at the last slot of a list, which wants to join it
with the others. A match that ends earlier never sees it.
-/

namespace Chatline.Script

/-- Where a match comes to a word that is no text. -/
structure Stumble where
  /-- How many slots it has filled before. -/
  filled : Nat
  /-- Why it cannot go on. -/
  cause : Mismatch
deriving Repr, DecidableEq

/-- The stumble of a match that has filled one more slot before. -/
def Stumble.next (stumble : Stumble) : Stumble := { stumble with filled := stumble.filled + 1 }

/-- What becomes of a match in the options of an enum. -/
inductive Entry where
  /-- No option is named. -/
  | absent
  /-- An option without slots is chosen. -/
  | leaf
  /-- An option with slots is chosen, and the match goes on there. -/
  | inside (stumble : Option Stumble)

/-- Why words cannot be joined to one text: the first that is no text. -/
def unjoinable (words : List Datum) : Option Mismatch :=
  let position := (words.takeWhile (·.text?.isSome)).length
  (words[position]?).map fun word => .joinedItem position word.typeName

/-- Why a slot cannot take a word that is no text. -/
def unreadable (slot : Slot) (word : Datum) : Mismatch :=
  if slot.isEnum then .noAttribute word.typeName "casefold" else .boundValue

mutual

/-- Where a match of words against sibling slots comes to one that is no text,
if it gets there. -/
def stumble : Grammar → List Datum → Option Stumble
  | .nil, _ => none
  | .cons _ slot children rest, words =>
    if rest.isEmpty && !slot.isEnum && children.isEmpty && words.length > 1 then
      (unjoinable words).map fun cause => ⟨0, cause⟩
    else match words with
      | [] => none
      | .text word :: later =>
        if slot.isEnum then
          match enter word later children with
          | .inside found => found.map Stumble.next
          | .leaf => (stumble rest later).map Stumble.next
          | .absent =>
            if slot.fallback = "" then none
            else match enter slot.fallback words children with
              | .inside found => found.map Stumble.next
              | .leaf => (stumble rest words).map Stumble.next
              | .absent => none
        else match slot.read word with
          | .error _ => none
          | .ok _ =>
            (if children.isEmpty then stumble rest later else stumble children later).map
              Stumble.next
      | word :: _ => some ⟨0, unreadable slot word⟩

/-- What becomes of a match in the options of an enum when a word names one. -/
def enter (word : String) (later : List Datum) : Grammar → Entry
  | .nil => .absent
  | .cons _ option children rest =>
    if Text.sameFolded option.name word then
      if children.isEmpty then .leaf else .inside (stumble children later)
    else enter word later rest

end

/-- The texts that a list starts with. -/
def leadingTexts : List Datum → List String
  | .text s :: words => s :: leadingTexts words
  | _ => []

end Chatline.Script

namespace Chatline.HubM

open Script

/-- Matches words that need not be texts against the grammar of a command. -/
def matchData (id : CommandId) (words : List Datum) (usage : String) : HubM Bindings := do
  match words.mapM Datum.text? with
  | some words => matchWords id words usage
  | none =>
    let command ← HubM.command id
    let grammar ← HubM.grammar command.arguments
    let texts := leadingTexts words
    let outcome := grammar.walk usage [] texts
    match stumble grammar words with
    | some found =>
      keepMatch command
        { outcome with
          bound := outcome.bound.take found.filled, result := .error (.mismatch found.cause) } []
    | none => keepMatch command outcome ((words.drop texts.length).map Datum.shown)

end Chatline.HubM
