import Chatline.Grammar.Usage
/-!
# Matching words against a grammar

The words after an alias fill the slots of a grammar from left to right.

* The last slot of a list takes all words that are left, joined by spaces,
  unless it is an enum or owns slots.
* When no word is left, an optional slot takes its fallback and ends the match;
  any other is missing.
* An enum takes the option that its word names. If the word names none, the
  default is chosen and the word is left for the next slot; without a default,
  an optional enum that is not the last of its list ends the match.
* Any other slot takes its word, which its rule must accept.

Once a slot that owns slots has been filled, or an option that owns slots has
been chosen, the match goes on there and does not come back.
-/

namespace Chatline

/-- A slot that was given a value. -/
structure Binding where
  /-- The names that lead from the root to the slot, options included. -/
  path : List String
  /-- The slot. -/
  slot : SlotId
  /-- The value. -/
  value : String
deriving Repr, DecidableEq

/-- What a match has done so far, also when it fails. -/
structure Outcome where
  /-- The slots that were given values, in order. -/
  bound : List Binding := []
  /-- Remarks for the log, in order. -/
  remarks : List String := []
  /-- The words that are left over, or why the match failed. -/
  result : Except Failure (List String)

namespace Outcome

/-- A match that ends here. -/
def stop (words : List String) : Outcome := { result := .ok words }

/-- A match that fails here. -/
def fail (failure : Failure) : Outcome := { result := .error failure }

/-- The outcome after one more slot was given a value. -/
def after (binding : Binding) (outcome : Outcome) : Outcome :=
  { outcome with bound := binding :: outcome.bound }

/-- The outcome after a remark. -/
def noting (remark : String) (outcome : Outcome) : Outcome :=
  { outcome with remarks := remark :: outcome.remarks }

end Outcome

namespace Grammar

/-- The words with which the last slot of a list goes on: all in one. -/
def merged (words : List String) : List String :=
  if words.length > 1 then [" ".intercalate words] else words

/-- The fault of a required slot for which no word is left. -/
def missing (usage : String) (slot : Slot) (children : Grammar) : Fault where
  kind := .coded .missingArgument
  message :=
    "Invalid arguments, " ++
      (if slot.isEnum then optionPhrase slot children else "'" ++ slot.name ++ "'") ++
      " required. Usage: " ++ usage
  options := [("argument", .named slot.name), ("usage", .text usage)]

/-- The fault of a word that names no option of an enum. -/
def unrecognized (usage : String) (slot : Slot) (children : Grammar) (word : String) : Fault where
  kind := .coded .unrecognizedOption
  message :=
    "Argument '" ++ Text.lowered word ++ "' not recognized. Must be " ++ optionPhrase slot children
  options := [("argument", .named slot.name), ("input", .text word), ("usage", .text usage)]

/-- The remark on a word that left an enum with its default. -/
def defaultRemark (slot : Slot) (word : String) : String :=
  Text.quoted word ++ " does not name an option of " ++ Text.quoted slot.name ++
    ", using default " ++ Text.quoted slot.fallback

mutual

/-- Matches words against sibling slots at the end of a path. -/
def walk (usage : String) (path : List String) : Grammar → List String → Outcome
  | nil, words => .stop words
  | cons id slot children rest, words =>
    let last := rest.isEmpty
    let here := path ++ [slot.name]
    match if last && !slot.isEnum && children.isEmpty then merged words else words with
    | [] =>
      if slot.optional then (Outcome.stop []).after ⟨here, id, slot.fallback⟩
      else .fail (.fault (missing usage slot children))
    | word :: later =>
      if slot.isEnum then
        match choose usage here word later children with
        | some (name, inside) =>
          (inside.getD (walk usage path rest later)).after ⟨here, id, name⟩
        | none =>
          let byDefault :=
            if slot.fallback = "" then none
            else choose usage here slot.fallback (word :: later) children
          match byDefault with
          | some (name, inside) =>
            ((inside.getD (walk usage path rest (word :: later))).after ⟨here, id, name⟩).noting
              (defaultRemark slot word)
          | none =>
            if slot.optional && !last then .stop (word :: later)
            else .fail (.fault (unrecognized usage slot children word))
      else
        match slot.read word with
        | .error failure => .fail failure
        | .ok value =>
          (if children.isEmpty then walk usage path rest later
            else walk usage here children later).after ⟨here, id, value⟩

/-- Chooses the first option that a word names: its name and, if it owns
slots, the match of the later words against these. -/
def choose (usage : String) (path : List String) (word : String) (later : List String) :
    Grammar → Option (String × Option Outcome)
  | nil => none
  | cons _ option children rest =>
    if Text.sameFolded option.name word then
      some (option.name,
        if children.isEmpty then none
        else some (walk usage (path ++ [option.name]) children later))
    else choose usage path word later rest

end

end Grammar

end Chatline
