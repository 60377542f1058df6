import Chatline.Callable
import Chatline.Registry
/-!
# The hub

The hub holds all that a host has built: slots, commands and registries, by
number, the names the host has given, and what has been observed so far. A
program on the hub may fail, and then the hub stays as the program left it.
-/

namespace Chatline

/-- All that a host has built. -/
structure Hub extends Scene where
  /-- The commands, by number. -/
  commands : List Command := []
  /-- The registries, by number. -/
  registries : List Registry := []
  /-- The callables, by number. -/
  callables : List Callable := []
  /-- How often each counter was drawn from. -/
  counters : List Nat := []
  /-- What has been observed, in order. -/
  events : List Event := []
  /-- How faults are reported. -/
  theme : Theme := Theme.standard

/-- A program on the hub. -/
abbrev HubM := EStateM Failure Hub

namespace HubM

/-- Runs a program and gives back how it ended. -/
def attempt {α : Type} (program : HubM α) : HubM (Except Failure α) := fun hub =>
  match program hub with
  | .ok a hub => .ok (.ok a) hub
  | .error failure hub => .ok (.error failure) hub

/-- Ends as told. -/
def conclude {α : Type} : Except Failure α → HubM α
  | .ok a => pure a
  | .error failure => throw failure

/-- Ends as a builder operation did. -/
def build {α : Type} (result : Except BuildError α) : HubM α := conclude (Failure.ofBuild result)

/-- Fails because a value is of the wrong type. -/
def mismatch {α : Type} (m : Mismatch) : HubM α := throw (.mismatch m)

/-- Records an event. -/
def record (event : Event) : HubM Unit :=
  modify fun hub => { hub with events := hub.events ++ [event] }

/-- Writes to the debug log. -/
def log (source : LogSource) (message : String) : HubM Unit := record (.log source message)

/-- Gives a name to what the host holds. -/
def name (as : String) (handle : Handle) : HubM Unit :=
  modify fun hub => { hub with names := Ledger.put hub.names as handle }

/-- What the host holds under a name. -/
def find (name : String) : HubM Handle := do
  match Ledger.value? name (← get).names with
  | some handle => return handle
  | none => throw (.unbound name)

/-- A counter that has not been drawn from. -/
def newCounter : HubM Nat := modifyGet fun hub =>
  (hub.counters.length, { hub with counters := hub.counters ++ [0] })

/-- How often a counter was drawn from before. -/
def draw (counter : Nat) : HubM Nat := modifyGet fun hub =>
  ((hub.counters[counter]?).getD 0,
   { hub with counters := hub.counters.modify counter (· + 1) })

/-- The slot of a number. -/
def slot (id : SlotId) : HubM Slot := do
  return ((← get).slots[id]?).getD { name := "" }

/-- The slots of some numbers. -/
def slotsOf (ids : List SlotId) : HubM (List Slot) := do
  let hub ← get
  return ids.filterMap (hub.slots[·]?)

/-- The command of a number. -/
def command (id : CommandId) : HubM Command := do
  return ((← get).commands[id]?).getD { name := "" }

/-- The registry of a number. -/
def registry (id : RegistryId) : HubM Registry := do
  return ((← get).registries[id]?).getD {}

/-- The commands of a registry. -/
def commandsOf (registry : Registry) : HubM (List Command) := do
  let hub ← get
  return registry.commands.filterMap (hub.commands[·]?)

/-- Lays out the slots of some numbers with all they own. -/
def grammar (ids : List SlotId) : HubM Grammar := do
  return Grammar.layOut (← get).slots ids

/-- Keeps a new slot. -/
def newSlot (slot : Slot) : HubM SlotId := modifyGet fun hub =>
  (hub.slots.length, { hub with slots := hub.slots ++ [slot] })

/-- Keeps a new command. -/
def newCommand (command : Command) : HubM CommandId := modifyGet fun hub =>
  (hub.commands.length, { hub with commands := hub.commands ++ [command] })

/-- Keeps a new registry. -/
def newRegistry (registry : Registry) : HubM RegistryId := modifyGet fun hub =>
  (hub.registries.length, { hub with registries := hub.registries ++ [registry] })

/-- Keeps a new callable. -/
def newCallable (callable : Callable) : HubM Handle := modifyGet fun hub =>
  (.callable callable.typeName hub.callables.length,
   { hub with callables := hub.callables ++ [callable] })

/-- The callable that a handle is, if it is one. -/
def callable? : Handle → HubM (Option Callable)
  | .callable _ id => do return (← get).callables[id]?
  | _ => return none

/-- The rule that a handle is, if it is one. -/
def rule? (handle : Handle) : HubM (Option Rule) := do
  return (← callable? handle).bind (·.rule?)

/-- Keeps another slot under a number. -/
def setSlot (id : SlotId) (slot : Slot) : HubM Unit :=
  modify fun hub => { hub with slots := hub.slots.set id slot }

/-- Keeps another command under a number. -/
def setCommand (id : CommandId) (command : Command) : HubM Unit :=
  modify fun hub => { hub with commands := hub.commands.set id command }

/-- Keeps another registry under a number. -/
def setRegistry (id : RegistryId) (registry : Registry) : HubM Unit :=
  modify fun hub => { hub with registries := hub.registries.set id registry }

end HubM

end Chatline
