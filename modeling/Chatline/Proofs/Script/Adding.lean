import Chatline.Proofs.Hub.Acceptance
import Chatline.Proofs.Script.Traceless
/-!
# Calls for several items

A call for several items is one call for each of them. `Added` says what it makes of the
hub when it has added some items to its object. If an item is refused the ones before it
stay, and none comes after them (`Adds.forM_refused`).
-/

namespace Chatline

open Script

/-! ## What a call for several items adds -/

/-- The command with further aliases, stripped and lowered. -/
def Command.alsoCalled (command : Command) (called : List String) : Command :=
  { command with
    aliases := command.aliases ++ called.map fun word => Text.lowered (Text.stripped word) }

/-- The command with further root slots. -/
def Command.alsoTaking (command : Command) (ids : List SlotId) : Command :=
  { command with arguments := command.arguments ++ ids }

/-- The registry with further commands. -/
def Registry.alsoHolding (registry : Registry) (ids : List CommandId) : Registry :=
  { registry with commands := registry.commands ++ ids }

namespace Hub

/-- The hub with a slot changed in place. -/
def changingSlot (hub : Hub) (id : SlotId) (f : Slot → Slot) : Hub :=
  hub.storing (hub.slots.modify id f)

/-- The hub with a command changed in place. -/
def changingCommand (hub : Hub) (id : CommandId) (f : Command → Command) : Hub :=
  { hub with commands := hub.commands.modify id f }

/-- The hub with a registry changed in place. -/
def changingRegistry (hub : Hub) (id : RegistryId) (f : Registry → Registry) : Hub :=
  { hub with registries := hub.registries.modify id f }

end Hub

/-- **What a call for several items makes of the hub** when it has added these to the
object that it is made on, in order. -/
inductive Added (hub : Hub) : Handle → Method → List Handle → Hub → Prop
  /-- Nested slots of a slot. -/
  | nested (id : SlotId) (ids : List SlotId) :
      Added hub (.slot id) .addArguments (ids.map .slot) (hub.changingSlot id (·.nesting ids))
  /-- Options of a slot. -/
  | options (id : SlotId) (ids : List SlotId) :
      Added hub (.slot id) .addOptions (ids.map .slot) (hub.changingSlot id (·.offering ids))
  /-- Aliases of a command. -/
  | aliases (id : CommandId) (called : List String) :
      Added hub (.command id) .addAlias (called.map .text)
        (hub.changingCommand id (·.alsoCalled called))
  /-- Root slots of a command. -/
  | roots (id : CommandId) (ids : List SlotId) :
      Added hub (.command id) .addArguments (ids.map .slot)
        (hub.changingCommand id (·.alsoTaking ids))
  /-- Commands of a registry, each of which the log records. -/
  | commands (id : RegistryId) (ids : List CommandId) :
      Added hub (.registry id) .addCommands (ids.map .command)
        ((hub.changingRegistry id (·.alsoHolding ids)).logged
          (ids.map fun command => (hub.commandAt command).registeredRecord))

section Changes

variable {hub : Hub} {i : Nat}

/-- Changing a slot to itself, or a command, or a registry. -/
theorem changingSlot_same {f : Slot → Slot} (h : ∀ slot, f slot = slot) :
    hub.changingSlot i f = hub := by
  rw [Hub.changingSlot, (funext h : f = id), List.modify_id]
  rfl

theorem changingCommand_same {f : Command → Command} (h : ∀ command, f command = command) :
    hub.changingCommand i f = hub := by
  rw [Hub.changingCommand, (funext h : f = id), List.modify_id]

theorem changingRegistry_same {f : Registry → Registry} (h : ∀ entry, f entry = entry) :
    hub.changingRegistry i f = hub := by
  rw [Hub.changingRegistry, (funext h : f = id), List.modify_id]

/-- Changing a slot twice, or a command, or a registry. -/
theorem changingSlot_twice {f g k : Slot → Slot} (h : ∀ slot, g (f slot) = k slot) :
    (hub.changingSlot i f).changingSlot i g = hub.changingSlot i k := by
  rw [Hub.changingSlot, Hub.changingSlot, Hub.storing_slots, List.modify_modify_eq,
    (funext h : g ∘ f = k)]
  rfl

theorem changingCommand_twice {f g k : Command → Command} (h : ∀ command, g (f command) = k command) :
    (hub.changingCommand i f).changingCommand i g = hub.changingCommand i k := by
  simp only [Hub.changingCommand, List.modify_modify_eq, (funext h : g ∘ f = k)]

theorem changingRegistry_twice {f g k : Registry → Registry} (h : ∀ entry, g (f entry) = k entry) :
    (hub.changingRegistry i f).changingRegistry i g = hub.changingRegistry i k := by
  simp only [Hub.changingRegistry, List.modify_modify_eq, (funext h : g ∘ f = k)]

end Changes

namespace Added

variable {hub hub' hub'' other : Hub} {on : Handle} {method : Method} {items more : List Handle}

/-- Where some items can be added, none can be. -/
theorem nothing (h : Added hub on method items hub') (other : Hub) :
    Added other on method [] other := by
  cases h with
  | nested i =>
    have hadded := @nested other i []
    rwa [changingSlot_same fun slot => by rw [Slot.nesting, List.append_nil]] at hadded
  | options i =>
    have hadded := @options other i []
    rwa [changingSlot_same fun slot => by
      rw [Slot.offering, List.append_nil, List.isEmpty_nil, Bool.not_true, Bool.or_false]]
      at hadded
  | aliases i =>
    have hadded := @aliases other i []
    rwa [changingCommand_same fun command => by
      rw [Command.alsoCalled, List.map_nil, List.append_nil]] at hadded
  | roots i =>
    have hadded := @roots other i []
    rwa [changingCommand_same fun command => by rw [Command.alsoTaking, List.append_nil]]
      at hadded
  | commands i =>
    have hadded := @commands other i []
    rwa [changingRegistry_same fun entry => by rw [Registry.alsoHolding, List.append_nil],
      List.map_nil, List.map_nil, Hub.logged_nil] at hadded

/-- **Items are added one after the other.** -/
theorem append (h : Added hub on method items hub') (h' : Added hub' on method more hub'') :
    Added hub on method (items ++ more) hub'' := by
  cases h with
  | nested i ids =>
    cases h' with
    | nested _ further =>
      rw [← List.map_append, changingSlot_twice (k := (·.nesting (ids ++ further))) fun slot => by
        simp only [Slot.nesting, List.append_assoc]]
      exact nested i _
  | options i ids =>
    cases h' with
    | options _ further =>
      have hany : (ids ++ further).isEmpty = (ids.isEmpty && further.isEmpty) := by
        cases ids <;> rfl
      rw [← List.map_append, changingSlot_twice (k := (·.offering (ids ++ further))) fun slot => by
        simp only [Slot.offering, List.append_assoc, hany, Bool.not_and, Bool.or_assoc]]
      exact options i _
  | aliases i called =>
    cases h' with
    | aliases _ further =>
      rw [← List.map_append,
        changingCommand_twice (k := (·.alsoCalled (called ++ further))) fun command => by
          simp only [Command.alsoCalled, List.map_append, List.append_assoc]]
      exact aliases i _
  | roots i ids =>
    cases h' with
    | roots _ further =>
      rw [← List.map_append,
        changingCommand_twice (k := (·.alsoTaking (ids ++ further))) fun command => by
          simp only [Command.alsoTaking, List.append_assoc]]
      exact roots i _
  | commands i ids =>
    cases h' with
    | commands _ further =>
      have hentry : (hub.changingRegistry i (·.alsoHolding ids)).changingRegistry i
            (·.alsoHolding further) =
          hub.changingRegistry i (·.alsoHolding (ids ++ further)) :=
        changingRegistry_twice fun entry => by simp only [Registry.alsoHolding, List.append_assoc]
      -- the log does not bear on the registries, nor these on the commands
      have hadded := @commands hub i (ids ++ further)
      rw [← hentry, List.map_append, List.map_append, ← Hub.logged_logged] at hadded
      exact hadded

end Added

/-! ## One item -/

/-- An alias that is accepted is the last one. -/
theorem Command.addAlias_eq_ok {command other : Command} {called : String}
    (h : command.addAlias called = .ok other) : other = command.alsoCalled [called] := by
  rw [Command.addAlias] at h
  split at h
  · cases h
  · split at h
    · cases h
    · cases h
      rfl

/-- So is a root slot. -/
theorem Command.addArgument_eq_ok {command other : Command} {siblings : List Slot} {i : SlotId}
    {slot : Slot} (h : command.addArgument siblings i slot = .ok other) :
    other = command.alsoTaking [i] := by
  obtain ⟨_, -, h⟩ := steps_eq_ok h
  cases h
  rfl

namespace HubM

variable {α : Type} {hub hub' : Hub} {a : α}
variable {failure : Failure} {id : Nat} {operands : Operands} {method : Method}

/-! ## One step for each item -/

/-- The calls that make one change for each of their items. -/
def bulkCalls : List Method := [.addArguments, .addOptions, .addAlias, .addCommands]

/-- The call for one item in place of a call for several. -/
def single : Method → Method
  | .addArguments => .addArgument
  | .addOptions => .addOption
  | .addCommands => .addCommand
  | method => method

/-- The items of a call for several, if the call is made and has items. -/
def itemsGiven? (on : Handle) (method : Method) (operands : Operands) : Option (List Handle) :=
  if offered on method operands then
    match method with
    | .addArguments => (operands.get 0).items?.toOption
    | _ => some operands.items
  else none

/-- **That a step adds one item** to the object of a call for several. -/
structure Adds (on : Handle) (method : Method) (step : Handle → HubM PUnit) : Prop where
  /-- It is the call for that item. -/
  called : ∀ item hub, ∃ result,
    callOn on (single method) { items := [item] } hub = (step item >>= fun _ => pure result) hub
  /-- It leaves no trace if it is refused. -/
  traceless : ∀ item, Traceless (step item)
  /-- It adds the item if it is not. -/
  added : ∀ {item hub hub'}, step item hub = .ok ⟨⟩ hub' → Added hub on method [item] hub'
  /-- Nothing is added without items. -/
  nothing : ∀ hub, Added hub on method [] hub

/-- One call for each of some items. -/
def callEach (on : Handle) (method : Method) (items : List Handle) : HubM PUnit :=
  items.forM fun item => do let _ ← callOn on (single method) { items := [item] }

/-- **One step for each item**: if one is refused, the items before the first such are
added, as by one call for each of them, and the call for that item fails alike. -/
theorem Adds.forM_refused {on : Handle} {step : Handle → HubM PUnit} (h : Adds on method step)
    {items : List Handle} (hrun : items.forM step hub = .error failure hub') :
    ∃ before item later, items = before ++ item :: later ∧ Added hub on method before hub' ∧
      callEach on method before hub = .ok ⟨⟩ hub' ∧
      callOn on (single method) { items := [item] } hub' = .error failure hub' := by
  induction items generalizing hub with
  | nil => cases hrun
  | cons item items ih =>
    have hcons : (item :: items).forM step = (step item >>= fun _ => items.forM step) := rfl
    rw [hcons] at hrun
    obtain ⟨result, hcall⟩ := h.called item hub
    cases hstep : step item hub with
    | error e other =>
      rw [bind_error hstep] at hrun hcall
      cases hrun
      obtain rfl := h.traceless item hub _ _ hstep
      exact ⟨[], item, items, rfl, h.nothing hub', rfl, hcall⟩
    | ok _ other =>
      rw [bind_ok hstep] at hrun hcall
      obtain ⟨before, refused, later, rfl, hadded, heach, hrefused⟩ := ih hrun
      refine ⟨item :: before, refused, later, rfl, (h.added hstep).append hadded, ?_, hrefused⟩
      have hfirst : (callOn on (single method) { items := [item] } >>= fun _ => pure ()) hub =
          .ok () other := bind_ok hcall
      exact (bind_ok hfirst).trans heach

/-- An operand that has to be something was it. -/
theorem require_eq_ok {m : Mismatch} {operand : Option α} (h : require m operand hub = .ok a hub') :
    operand = some a ∧ hub = hub' := by
  cases operand with
  | none => cases h
  | some b =>
    cases h
    exact ⟨rfl, rfl⟩

theorem build_eq_ok {result : Except BuildError α} (h : build result hub = .ok a hub') :
    result = .ok a ∧ hub = hub' := by
  cases result with
  | error e => cases h
  | ok b =>
    cases h
    exact ⟨rfl, rfl⟩

theorem slot?_eq_some {operand : Handle} {id : SlotId} (h : operand.slot? = some id) :
    operand = .slot id := by
  cases operand <;> cases h
  rfl

theorem command?_eq_some {operand : Handle} {id : CommandId} (h : operand.command? = some id) :
    operand = .command id := by
  cases operand <;> cases h
  rfl

theorem text?_eq_some {operand : Handle} {text : String} (h : operand.text? = some text) :
    operand = .text text := by
  match operand, h with
  | .datum (.text _), h =>
    cases h
    rfl

/-- Nested slots of a slot are added one by one. -/
theorem adds_nested (id : SlotId) : Adds (.slot id) .addArguments (addNestedOperand id) where
  called item hub := ⟨.slot id, rfl⟩
  traceless := traceless_addNestedOperand id
  nothing hub := (@Added.nested hub id []).nothing hub
  added := by
    intro item hub hub' h
    obtain ⟨nested, _, hnested, hadd⟩ := bind_eq_ok h
    obtain ⟨hitem, rfl⟩ := require_eq_ok hnested
    obtain rfl := slot?_eq_some hitem
    have h := (addNested_eq id nested hub).symm.trans hadd
    split at h
    · next other hother =>
      obtain rfl := Slot.addNested_eq_ok hother
      cases h
      rw [Hub.set_slotAt hub id (·.nesting [nested])]
      exact Added.nested id [nested]
    · cases h

/-- Options of a slot are added one by one. -/
theorem adds_options (id : SlotId) : Adds (.slot id) .addOptions (addOptionOperand id) where
  called item hub := ⟨.slot id, rfl⟩
  traceless := traceless_addOptionOperand id
  nothing hub := (@Added.options hub id []).nothing hub
  added := by
    intro item hub hub' h
    obtain ⟨option, _, hoption, hadd⟩ := bind_eq_ok h
    obtain ⟨hitem, rfl⟩ := require_eq_ok hoption
    obtain rfl := slot?_eq_some hitem
    have h := (addOption_eq id option hub).symm.trans hadd
    split at h
    · next other hother =>
      obtain rfl := Slot.addOption_eq_ok hother
      cases h
      rw [Hub.set_slotAt hub id (·.offering [option])]
      exact Added.options id [option]
    · cases h

/-- A command that was changed is what the change made of it. -/
theorem changeCommand_eq_ok {change : Command → HubM Command} (hidle : ∀ c, Idle (change c))
    (h : changeCommand id change hub = .ok ⟨⟩ hub') :
    ∃ other, change (hub.commandAt id) hub = .ok other hub ∧
      hub' = { hub with commands := hub.commands.set id other } := by
  obtain ⟨_, _, hcommand, hrest⟩ := bind_eq_ok h
  cases hcommand
  obtain ⟨other, _, hchange, hset⟩ := bind_eq_ok hrest
  obtain rfl := (hidle _).eq_of_ok hchange
  cases hset
  exact ⟨other, hchange, rfl⟩

/-- Aliases of a command are added one by one. -/
theorem adds_aliases (id : CommandId) :
    Adds (.command id) .addAlias fun item => changeCommand id (withAlias · item) where
  called item hub := by
    refine ⟨.command id, ?_⟩
    -- going through a single item is the step for it, and no more
    exact congrFun (bind_assoc (changeCommand id (withAlias · item)) _ _) hub
  traceless item := traceless_changeCommand (idle_withAlias · item) id
  nothing hub := (@Added.aliases hub id []).nothing hub
  added := by
    intro item hub hub' h
    obtain ⟨other, hwith, rfl⟩ := changeCommand_eq_ok (idle_withAlias · item) h
    obtain ⟨called, _, htext, hbuild⟩ := bind_eq_ok hwith
    obtain rfl := text?_eq_some (require_eq_ok htext).1
    obtain rfl := Command.addAlias_eq_ok (build_eq_ok hbuild).1
    rw [Hub.set_commandAt hub id (·.alsoCalled [called])]
    exact Added.aliases id [called]

/-- So are root slots. -/
theorem adds_roots (id : CommandId) :
    Adds (.command id) .addArguments fun item => changeCommand id (withArgument · item) where
  called item hub := ⟨.command id, rfl⟩
  traceless item := traceless_changeCommand (idle_withArgument · item) id
  nothing hub := (@Added.roots hub id []).nothing hub
  added := by
    intro item hub hub' h
    obtain ⟨other, hwith, rfl⟩ := changeCommand_eq_ok (idle_withArgument · item) h
    obtain ⟨argument, _, hargument, hbuild⟩ := bind_eq_ok hwith
    obtain rfl := slot?_eq_some (require_eq_ok hargument).1
    obtain rfl := Command.addArgument_eq_ok (build_eq_ok hbuild).1
    rw [Hub.set_commandAt hub id (·.alsoTaking [argument])]
    exact Added.roots id [argument]

/-- Commands are registered one by one. -/
theorem adds_commands (id : RegistryId) :
    Adds (.registry id) .addCommands fun item => do let _ ← registerOperand id item where
  called item hub := by
    have hcall : callOn (.registry id) (single .addCommands) { items := [item] } hub =
      (registerOperand id item >>= fun command => pure (.command command)) hub := rfl
    cases hrun : registerOperand id item hub with
    | ok command other =>
      refine ⟨.command command, ?_⟩
      rw [hcall, bind_ok hrun, bind_assoc, bind_ok hrun]
      rfl
    | error e other =>
      refine ⟨item, ?_⟩
      rw [hcall, bind_error hrun, bind_assoc, bind_error hrun]
  traceless item := (traceless_registerOperand id item).bind_unfailing fun _ => unfailing_pure _
  nothing hub := (@Added.commands hub id []).nothing hub
  added := by
    intro item hub hub' h
    obtain ⟨given, _, hregister, hend⟩ := bind_eq_ok h
    cases hend
    obtain ⟨command, _, hcommand, hrest⟩ := bind_eq_ok hregister
    obtain ⟨hitem, rfl⟩ := require_eq_ok hcommand
    obtain rfl := command?_eq_some hitem
    obtain ⟨_, _, hrun, hend⟩ := bind_eq_ok hrest
    cases hend
    obtain ⟨_, _, hcheck, -⟩ := bind_eq_ok hrun
    obtain rfl := (idle_validate given).eq_of_ok hcheck
    rw [register_of_validate hcheck] at hrun
    cases hrun
    exact Added.commands id [given]

end HubM

end Chatline
