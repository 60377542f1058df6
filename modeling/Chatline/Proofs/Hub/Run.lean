import Chatline.Hub.Dispatch
/-!
# Running programs on the hub

How a program of several steps runs, told from how its steps run: a step that
succeeds hands its result and its hub to the next, and one that fails is the
end. `bind_eq_ok` takes a run that succeeded apart again.
-/

namespace Chatline

/-- Steps that may be refused: if all of them succeeded, so did the first. -/
theorem steps_eq_ok {ε α β : Type} {x : Except ε α} {k : α → Except ε β} {b : β}
    (h : (x >>= k) = .ok b) : ∃ a, x = .ok a ∧ k a = .ok b := by
  cases x with
  | error e => cases h
  | ok a => exact ⟨a, rfl, h⟩

namespace Hub

/-- The hub after some records were added to what has been observed. -/
def logged (hub : Hub) (records : List Event) : Hub :=
  { hub with events := hub.events ++ records }

/-- The hub with other slots. -/
def storing (hub : Hub) (store : List Slot) : Hub := { hub with slots := store }

/-- The hub with earlier events. -/
def recalling (hub : Hub) (earlier : List Event) : Hub :=
  { hub with events := earlier ++ hub.events }

/-- The hub before anything was observed. -/
def quiet (hub : Hub) : Hub := { hub with events := [] }

/-- The slot of a number, as programs see it. -/
def slotAt (hub : Hub) (id : SlotId) : Slot := (hub.slots[id]?).getD { name := "" }

/-- The command of a number, as programs see it. -/
def commandAt (hub : Hub) (id : CommandId) : Command := (hub.commands[id]?).getD { name := "" }

/-- The registry of a number, as programs see it. -/
def registryAt (hub : Hub) (id : RegistryId) : Registry := (hub.registries[id]?).getD {}

variable (hub : Hub) (store : List Slot) (records more : List Event)

/-- A slot that is there is the one that programs see. -/
theorem slotAt_eq {hub : Hub} {id : SlotId} {slot : Slot} (h : hub.slots[id]? = some slot) :
    hub.slotAt id = slot := by
  rw [slotAt, h, Option.getD_some]

/-- So is a command. -/
theorem commandAt_eq {hub : Hub} {id : CommandId} {command : Command}
    (h : hub.commands[id]? = some command) : hub.commandAt id = command := by
  rw [commandAt, h, Option.getD_some]

/-- The command of a number is the one that is kept under it. -/
theorem getElem?_commandAt {hub : Hub} {id : CommandId} (h : id < hub.commands.length) :
    hub.commands[id]? = some (hub.commandAt id) := by
  rw [commandAt, List.getElem?_eq_getElem h, Option.getD_some]

/-- To keep what is made of a slot is to change the slot in place. -/
theorem set_slotAt (id : SlotId) (f : Slot → Slot) :
    hub.slots.set id (f (hub.slotAt id)) = hub.slots.modify id f := by
  rw [@List.modify_eq_set _ ⟨{ name := "" }⟩ f id]
  rfl

/-- So it is with a command. -/
theorem set_commandAt (id : CommandId) (f : Command → Command) :
    hub.commands.set id (f (hub.commandAt id)) = hub.commands.modify id f := by
  rw [@List.modify_eq_set _ ⟨{ name := "" }⟩ f id]
  rfl

/-- And with a registry. -/
theorem set_registryAt (id : RegistryId) (f : Registry → Registry) :
    hub.registries.set id (f (hub.registryAt id)) = hub.registries.modify id f := by
  rw [@List.modify_eq_set _ ⟨{}⟩ f id]
  rfl

/-- A hub is what it is apart from what it has observed. -/
theorem recalling_quiet : hub.quiet.recalling hub.events = hub := by
  rw [recalling, quiet, List.append_nil]

@[simp] theorem logged_nil : hub.logged [] = hub := by
  rw [logged, List.append_nil]

@[simp] theorem logged_logged : (hub.logged records).logged more = hub.logged (records ++ more) := by
  rw [logged, logged, logged, List.append_assoc]

@[simp] theorem storing_slots : (hub.storing store).slots = store := rfl

end Hub

namespace HubM

variable {α β : Type} {p : HubM α} {k : α → HubM β} {hub hub' hub'' : Hub} {a : α} {b : β}
variable {failure : Failure}

/-- After a step that succeeds the rest runs on its result. -/
theorem bind_ok (h : p hub = .ok a hub') : (p >>= k) hub = k a hub' := by
  show EStateM.bind p k hub = k a hub'
  rw [EStateM.bind, h]

/-- A step that fails is the end. -/
theorem bind_error (h : p hub = .error failure hub') : (p >>= k) hub = .error failure hub' := by
  show EStateM.bind p k hub = .error failure hub'
  rw [EStateM.bind, h]

/-- **A run that succeeded** succeeded step by step. -/
theorem bind_eq_ok (h : (p >>= k) hub = .ok b hub'') :
    ∃ a hub', p hub = .ok a hub' ∧ k a hub' = .ok b hub'' := by
  cases hp : p hub with
  | ok a hub' =>
    rw [bind_ok hp] at h
    exact ⟨a, hub', rfl, h⟩
  | error failure hub' =>
    rw [bind_error hp] at h
    cases h

/-! ## How a run ends -/

/-- How a program ends. -/
def ended (p : HubM α) (hub : Hub) : Except Failure α :=
  match p hub with
  | .ok a _ => .ok a
  | .error failure _ => .error failure

/-- The hub as a program leaves it, whether or not it fails. -/
def after (p : HubM α) (hub : Hub) : Hub :=
  match p hub with
  | .ok _ hub' => hub'
  | .error _ hub' => hub'

/-- What an observer learns from a run: how it ends, and what is observed
meanwhile. -/
def observed (p : HubM α) (hub : Hub) : Except Failure α × List Event :=
  (p.ended hub, (p.after hub).events.drop hub.events.length)

/-- How two steps end. -/
theorem ended_bind : (p >>= k).ended hub =
    match p.ended hub with
    | .ok a => (k a).ended (p.after hub)
    | .error failure => .error failure := by
  cases hp : p hub with
  | ok a hub' => simp only [ended, after, bind_ok hp, hp]
  | error failure hub' => simp only [ended, bind_error hp, hp]

/-- The hub as two steps leave it. -/
theorem after_bind : (p >>= k).after hub =
    match p.ended hub with
    | .ok a => (k a).after (p.after hub)
    | .error _ => p.after hub := by
  cases hp : p hub with
  | ok a hub' => simp only [ended, after, bind_ok hp, hp]
  | error failure hub' => simp only [ended, after, bind_error hp, hp]

/-- A caught failure is a result. -/
theorem ended_attempt (p : HubM α) (hub : Hub) : (attempt p).ended hub = .ok (p.ended hub) := by
  cases hp : p hub <;> simp only [attempt, ended, hp]

/-- Catching a failure leaves what the program left. -/
theorem after_attempt (p : HubM α) (hub : Hub) : (attempt p).after hub = p.after hub := by
  cases hp : p hub <;> simp only [attempt, after, hp]

/-- What is read off the hub. -/
def reading (f : Hub → α) : HubM α := fun hub => .ok (f hub) hub

/-! ## Single steps -/

/-- Looking a slot up. -/
theorem slot_eq (id : SlotId) (hub : Hub) : slot id hub = .ok (hub.slotAt id) hub := rfl

/-- Looking some slots up. -/
theorem slotsOf_eq (ids : List SlotId) (hub : Hub) :
    slotsOf ids hub = .ok (ids.filterMap (hub.slots[·]?)) hub := rfl

/-- Looking a registry up. -/
theorem registry_eq (id : RegistryId) (hub : Hub) :
    HubM.registry id hub = .ok (hub.registryAt id) hub := rfl

/-- Laying out some slots. -/
theorem grammar_eq (ids : List SlotId) (hub : Hub) :
    grammar ids hub = .ok (Grammar.layOut hub.slots ids) hub := rfl

/-- Looking a command up. -/
theorem command_eq {id : CommandId} {command : Command} (h : hub.commands[id]? = some command) :
    HubM.command id hub = .ok command hub := by
  show EStateM.Result.ok (hub.commandAt id) hub = .ok command hub
  rw [Hub.commandAt_eq h]

/-- Logging some messages appends their records. -/
theorem forM_log (source : LogSource) (messages : List String) (hub : Hub) :
    messages.forM (log source) hub =
      .ok () (hub.logged (messages.map (.log source))) := by
  induction messages generalizing hub with
  | nil => rw [List.map_nil, Hub.logged_nil]; rfl
  | cons message messages ih =>
    have hcons : (message :: messages).forM (log source) hub =
        messages.forM (log source) (hub.logged [.log source message]) := rfl
    rw [hcons, ih, Hub.logged_logged, List.map_cons, List.singleton_append]

end HubM

end Chatline
