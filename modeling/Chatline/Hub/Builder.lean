import Chatline.Hub
import Chatline.Grammar.Notation
/-!
# Building on the hub

The builder calls on slots, commands and registries that the hub holds. A call
either makes its whole change or fails and changes nothing; a call for several
items makes one call per item, and so keeps what came before the first that was
refused.
-/

namespace Chatline

namespace Grammar

/-- The store after all slots of a grammar were given their fallbacks. -/
def resetIn (grammar : Grammar) (store : List Slot) : List Slot :=
  grammar.ids.foldl (fun store id => store.modify id Slot.reset) store

end Grammar

namespace HubM

/-- Changes a slot by an operation that may refuse. -/
def changeSlot (id : SlotId) (change : Slot → Except Failure Slot) : HubM Unit := do
  let slot ← HubM.slot id
  setSlot id (← conclude (change slot))

/-- Changes a slot by a builder operation. -/
def buildSlot (id : SlotId) (change : Slot → Except BuildError Slot) : HubM Unit :=
  changeSlot id fun slot => Failure.ofBuild (change slot)

/-- Gives a slot a further nested slot. -/
def addNested (owner nested : SlotId) : HubM Unit := do
  let slot ← HubM.slot owner
  let siblings ← slotsOf slot.children
  setSlot owner (← build (slot.addNested siblings nested (← HubM.slot nested)))

/-- Gives an enum a further option. A slot without nested slots is marked as an
enum before the place of the option is looked at. -/
def addOption (owner option : SlotId) : HubM Unit := do
  let slot ← HubM.slot owner
  let siblings ← slotsOf slot.children
  if slot.children.isEmpty || slot.isEnum then setSlot owner slot.marked
  setSlot owner (← build (slot.addOption siblings option (← HubM.slot option)))

/-- Gives slots and all they own their fallbacks. -/
def resetSlots (ids : List SlotId) : HubM Unit :=
  modify fun hub => { hub with slots := (Grammar.layOut hub.slots ids).resetIn hub.slots }

/-- Keeps the slots of a grammar in bracket notation. -/
def infer (text : String) : HubM (List SlotId) := do
  let slots ← build (Notation.read text)
  slots.mapM newSlot

/-- Changes a command by a builder operation. -/
def buildCommand (id : CommandId) (change : Command → Except BuildError Command) : HubM Unit := do
  let command ← HubM.command id
  setCommand id (← build (change command))

/-- Gives a command a further root slot. -/
def addArgument (id : CommandId) (argument : SlotId) : HubM Unit := do
  let command ← HubM.command id
  let siblings ← slotsOf command.arguments
  setCommand id (← build (command.addArgument siblings argument (← HubM.slot argument)))

/-- Refuses a command whose grammar breaks a rule of building. -/
def validate (id : CommandId) : HubM Unit := do
  let command ← HubM.command id
  build ((← grammar command.arguments).check (.command command.name) false)

/-- Gives all slots of a command their fallbacks. -/
def resetCommand (id : CommandId) : HubM Unit := do
  resetSlots (← HubM.command id).arguments

/-- Registers a command whose grammar breaks no rule of building. -/
def register (registry : RegistryId) (id : CommandId) : HubM Unit := do
  validate id
  let command ← HubM.command id
  let entry ← HubM.registry registry
  setRegistry registry { entry with commands := entry.commands ++ [id] }
  log .registry
    ("registered " ++ Text.quoted command.name ++ " with aliases " ++
      Text.quotedList command.aliases)

end HubM

end Chatline
