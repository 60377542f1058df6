import Chatline.Slot
/-!
# Grammars

A grammar is a list of sibling slots, each with the grammar of the slots it
owns. It is a tree written with first child and next sibling, so that plain
recursion reaches all of it.

Slots are kept in a store and refer to each other by number; `Grammar.unfold`
lays out the tree that some of them stand for. A tree without a slot below
itself is at most as deep as there are slots, so that many levels lay it out
whole.
-/

namespace Chatline

/-- Sibling slots with what each of them owns. -/
inductive Grammar where
  /-- No slots. -/
  | nil
  /-- A slot, with its number and what it owns, before its later siblings. -/
  | cons (id : SlotId) (slot : Slot) (children rest : Grammar)

namespace Grammar

/-- Whether there are no slots. -/
def isEmpty : Grammar → Bool
  | nil => true
  | cons .. => false

/-- The sibling slots themselves, without what they own. -/
def siblings : Grammar → List Slot
  | nil => []
  | cons _ slot _ rest => slot :: rest.siblings

/-- The numbers of the sibling slots. -/
def roots : Grammar → List SlotId
  | nil => []
  | cons id _ _ rest => id :: rest.roots

/-- The numbers of all slots, each before those it owns. -/
def ids : Grammar → List SlotId
  | nil => []
  | cons id _ children rest => id :: (children.ids ++ rest.ids)

/-- All slots, each before those it owns. -/
def slots : Grammar → List Slot
  | nil => []
  | cons _ slot children rest => slot :: (children.slots ++ rest.slots)

/-- Lays out `depth` levels of the slots of the given numbers. -/
def unfold (store : List Slot) : Nat → List SlotId → Grammar
  | 0, _ => nil
  | depth + 1, ids =>
    ids.foldr (fun id rest =>
      match store[id]? with
      | some slot => cons id slot (unfold store depth slot.children) rest
      | none => rest) nil

/-- Lays out the slots of the given numbers with all they own. -/
def layOut (store : List Slot) (ids : List SlotId) : Grammar := unfold store store.length ids

/-- The first option whose name equals a word up to letter case, with what it
owns. -/
def option? (word : String) : Grammar → Option (SlotId × Slot × Grammar)
  | nil => none
  | cons id slot children rest =>
    if Text.sameFolded slot.name word then some (id, slot, children) else option? word rest

/-- The first slot, each before those it owns, whose name equals a name up to
letter case. -/
def find? (name : String) : Grammar → Option SlotId
  | nil => none
  | cons id slot children rest =>
    if Text.sameFolded slot.name name then some id
    else match find? name children with
      | some found => some found
      | none => find? name rest

/-- Every slot with the path of names that leads to it from `path`, and its
present value. -/
def values (path : List String) : Grammar → List (List String × String)
  | nil => []
  | cons _ slot children rest =>
    (path ++ [slot.name], slot.value) ::
      (children.values (path ++ [slot.name]) ++ rest.values path)

/-- Refuses a grammar that breaks a rule of building, slot by slot, each before
those it owns: no required slot comes after an optional sibling, and the
default of an enum names one of its options. `afterOptional` tells whether an
earlier sibling is optional. -/
def check (owner : Owner) (afterOptional : Bool) : Grammar → Except BuildError Unit
  | nil => .ok ()
  | cons _ slot children rest =>
    if !slot.optional && afterOptional then .error (.requiredAfterOptional owner slot.name)
    else match slot.default with
      | some value =>
        if slot.isEnum && (children.option? value).isNone then
          .error (.defaultNamesNoOption value slot.name)
        else do
          children.check (.argument slot.name) false
          rest.check owner (afterOptional || slot.optional)
      | none => do
        children.check (.argument slot.name) false
        rest.check owner (afterOptional || slot.optional)

/-- The unambiguous form of an unset or given default. -/
def shownDefault : Option String → String
  | none => "None"
  | some value => Text.quoted value

/-- The unambiguous form of a truth value. -/
def shownBool (b : Bool) : String := if b then "True" else "False"

/-- The fields of a slot, in unambiguous form, given those of the slots it
owns. -/
def fields (slot : Slot) (children : List String) : List (String × String) :=
  [("name", Text.quoted slot.name), ("optional", shownBool slot.optional),
   ("enum", shownBool slot.isEnum), ("default", shownDefault slot.default),
   ("rule", slot.rule.shown), ("arguments", Text.bracketed children)]

/-- A printed object: its type and its fields. -/
def object (type : String) (fields : List (String × String)) : String :=
  type ++ "(" ++ ", ".intercalate (fields.map fun (name, value) => name ++ "=" ++ value) ++ ")"

/-- The unambiguous forms of the sibling slots. -/
def shown : Grammar → List String
  | nil => []
  | cons _ slot children rest => object "argument" (fields slot children.shown) :: rest.shown

end Grammar

end Chatline
