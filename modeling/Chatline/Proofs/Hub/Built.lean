import Chatline.Proofs.Grammar.Notation
import Chatline.Proofs.Hub.Run
/-!
# Builder histories

A host builds slots, commands and registries by calls, each of which makes its
change or is refused. `construct` makes the calls one after the other and keeps
the defaults that each slot was given. A default that comes later replaces the
fallback of its slot, but the slot goes on holding the first default that is not
empty (`faithful_construct`); so a newly built slot holds its fallback if and only
if the two are the same.
-/

namespace Chatline

/-! ## Builder calls -/

/-- A call on a slot. -/
inductive SlotCall where
  /-- The slot may be left out. -/
  | makeOptional
  /-- The slot must be filled. -/
  | makeRequired
  /-- The slot takes the name of an option. -/
  | makeEnum
  /-- The slot has a rule. -/
  | setValidator (rule : Rule)
  /-- The slot has a default. -/
  | setDefault (value : String)

namespace SlotCall

/-- What a call makes of the slot. -/
def change : SlotCall → Slot → Except Failure Slot
  | makeOptional, slot => .ok slot.makeOptional
  | makeRequired, slot => Failure.ofBuild slot.makeRequired
  | makeEnum, slot => Failure.ofBuild slot.makeEnum
  | setValidator rule, slot => .ok (slot.setValidator rule)
  | setDefault value, slot => slot.setDefault value

/-- The default that a call gives. -/
def default? : SlotCall → Option String
  | setDefault value => some value
  | _ => none

end SlotCall

/-- A call on a command. -/
inductive CommandCall where
  /-- The command has one more alias. -/
  | addAlias (called : String)
  /-- The command has a description. -/
  | setDescription (description : String)
  /-- The command is for callers of a level or more. -/
  | restrictAccess (level : Int)
  /-- The command has an action. -/
  | setAction (action : Action)
  /-- The command has a precondition. -/
  | setPrecondition (precondition : Precondition)

/-- What a call makes of the command. -/
def CommandCall.change : CommandCall → Command → Except BuildError Command
  | addAlias called, command => command.addAlias called
  | setDescription description, command => .ok (command.setDescription description)
  | restrictAccess level, command => .ok (command.restrictAccess level)
  | setAction action, command => .ok (command.setAction action)
  | setPrecondition precondition, command => .ok (command.setPrecondition precondition)

/-- A call on a registry. -/
inductive RegistryCall where
  /-- Lines start with a marker. -/
  | useMarker (marker : String)
  /-- The registry has a suggester. -/
  | useSuggester (suggester : Suggester)
  /-- Faults go to a sink. -/
  | onError (sink : Sink)

/-- What a call makes of the registry. -/
def RegistryCall.change : RegistryCall → Registry → Registry
  | useMarker marker, registry => registry.useMarker marker
  | useSuggester suggester, registry => { registry with suggester }
  | onError sink, registry => { registry with sink := some sink }

/-- **A builder call.** A call for several items is one call for each of them. -/
inductive BuilderCall where
  /-- A new slot. -/
  | newSlot (name : String) (optional : Bool)
  /-- New slots from bracket notation. -/
  | infer (text : String)
  /-- A call on a slot. -/
  | onSlot (id : SlotId) (call : SlotCall)
  /-- A nested slot for a slot. -/
  | addNested (owner nested : SlotId)
  /-- An option for a slot. -/
  | addOption (owner option : SlotId)
  /-- A new command. -/
  | newCommand (name : String)
  /-- A call on a command. -/
  | onCommand (id : CommandId) (call : CommandCall)
  /-- A root slot for a command. -/
  | addArgument (id : CommandId) (argument : SlotId)
  /-- A new registry. -/
  | newRegistry (marker : String) (colorful fancy : Bool)
  /-- A call on a registry. -/
  | onRegistry (id : RegistryId) (call : RegistryCall)
  /-- Registering a command. -/
  | register (registry : RegistryId) (id : CommandId)

namespace BuilderCall

open HubM

/-- Makes a call. -/
def run : BuilderCall → HubM Unit
  | newSlot name optional => do let _ ← HubM.newSlot (← build (Slot.make name optional))
  | infer text => do let _ ← HubM.infer text
  | onSlot id call => changeSlot id call.change
  | addNested owner nested => HubM.addNested owner nested
  | addOption owner option => HubM.addOption owner option
  | newCommand name => do let _ ← HubM.newCommand (← build (Command.make name))
  | onCommand id call => buildCommand id call.change
  | addArgument id argument => HubM.addArgument id argument
  | newRegistry marker colorful fancy => do
    let _ ← HubM.newRegistry (Registry.useMarker { colorful, fancy } marker)
  | onRegistry id call => do setRegistry id (call.change (← HubM.registry id))
  | register registry id => HubM.register registry id

/-- The default that a call gives a slot, if it is not refused. -/
def default? (call : BuilderCall) (hub : Hub) (i : SlotId) : Option String :=
  match call with
  | onSlot id call =>
    if id = i then (hub.slots[i]?).bind fun slot =>
      if (call.change slot).isOk then call.default? else none
    else none
  | infer text =>
    match Notation.read text with
    | .ok slots =>
      if i < hub.slots.length then none else (slots[i - hub.slots.length]?).bind (·.default)
    | .error _ => none
  | _ => none

end BuilderCall

/-- What was built, with the defaults that each slot was given. -/
structure Construction where
  /-- What was built. -/
  hub : Hub := {}
  /-- The defaults that a slot was given, in order. -/
  given : SlotId → List String := fun _ => []

/-- What is there after one more call. -/
def Construction.after (c : Construction) (call : BuilderCall) : Construction where
  hub := call.run.after c.hub
  given i := c.given i ++ (call.default? c.hub i).toList

/-- **What some calls build**, one after the other. A call that is refused changes
nothing. -/
def construct (calls : List BuilderCall) : Construction := calls.foldl .after {}

/-! ## Slots and their defaults -/

/-- The first default that is not empty. -/
def firstGiven (given : List String) : String := (given.find? (· ≠ "")).getD ""

/-- The last default. -/
def lastGiven (given : List String) : String := given.getLast?.getD ""

/-- A single default is the first and the last. -/
theorem firstGiven_eq_lastGiven {given : List String} (h : given.length ≤ 1) :
    firstGiven given = lastGiven given := by
  match given, h with
  | [], _ => rfl
  | [value], _ => by_cases hvalue : value = "" <;> simp [firstGiven, lastGiven, hvalue]

/-- That a slot has the last of some defaults and holds the first that is not
empty. -/
structure Slot.Follows (slot : Slot) (given : List String) : Prop where
  /-- It has the last. -/
  default : slot.default = given.getLast?
  /-- It holds the first that is not empty. -/
  value : slot.value = firstGiven given

section Follows

variable {slot other : Slot} {given : List String} {v : String}

/-- One more default is held if none was before. -/
theorem firstGiven_append_singleton :
    firstGiven (given ++ [v]) = if firstGiven given = "" then v else firstGiven given := by
  rw [firstGiven, firstGiven, List.find?_append]
  cases hfirst : given.find? (· ≠ "") with
  | some x =>
    have hx : x ≠ "" := by simpa using List.find?_some hfirst
    rw [Option.getD_some, if_neg hx]
    rfl
  | none =>
    rw [Option.getD_none, if_pos rfl, Option.none_or, List.find?_singleton]
    by_cases hv : v = ""
    · simp [hv]
    · simp [hv]

/-- The fallback is the last default. -/
theorem Slot.Follows.fallback (h : slot.Follows given) : slot.fallback = lastGiven given := by
  rw [Slot.fallback, h.default, lastGiven]

/-- A slot with the same default and the same value follows the same defaults. -/
theorem Slot.Follows.of_same (h : slot.Follows given) (hdefault : other.default = slot.default)
    (hvalue : other.value = slot.value) : other.Follows given :=
  ⟨hdefault.trans h.default, hvalue.trans h.value⟩

/-- A default that is accepted is the last. -/
theorem Slot.Follows.setDefault (h : slot.Follows given) (hset : slot.setDefault v = .ok other) :
    other.Follows (given ++ [v]) := by
  rw [Slot.setDefault] at hset
  split at hset
  · cases hset
  · cases hset
  · split at hset
    · cases hset
    · cases hset
      refine ⟨List.getLast?_concat.symm, ?_⟩
      rw [firstGiven_append_singleton, ← h.value]

/-- A call on a slot makes it follow the default that the call gives. -/
theorem Slot.Follows.change {call : SlotCall} (h : slot.Follows given)
    (hchange : call.change slot = .ok other) : other.Follows (given ++ call.default?.toList) := by
  have hsame : ∀ {s : Slot}, s.default = slot.default → s.value = slot.value →
      s.Follows (given ++ []) := by
    intro s hdefault hvalue
    rw [List.append_nil]
    exact h.of_same hdefault hvalue
  cases call with
  | setDefault value => exact h.setDefault hchange
  | makeOptional =>
    cases hchange
    exact hsame rfl rfl
  | setValidator rule =>
    cases hchange
    exact hsame rfl rfl
  | makeRequired =>
    rw [SlotCall.change, Slot.makeRequired] at hchange
    split at hchange
    · cases hchange
    · cases hchange
      exact hsame rfl rfl
  | makeEnum =>
    rw [SlotCall.change, Slot.makeEnum] at hchange
    split at hchange
    · cases hchange
    · cases hchange
      exact hsame rfl rfl

/-- The slot with further nested slots. -/
def Slot.nesting (slot : Slot) (ids : List SlotId) : Slot :=
  { slot with children := slot.children ++ ids }

/-- The slot with further options; with any it is an enum. -/
def Slot.offering (slot : Slot) (ids : List SlotId) : Slot :=
  { slot with isEnum := slot.isEnum || !ids.isEmpty, children := slot.children ++ ids }

/-- A nested slot that is accepted is the last one. -/
theorem Slot.addNested_eq_ok {siblings : List Slot} {id : SlotId} {nested : Slot}
    (h : slot.addNested siblings id nested = .ok other) : other = slot.nesting [id] := by
  rw [Slot.addNested] at h
  split at h
  · cases h
  · obtain ⟨_, -, h⟩ := steps_eq_ok h
    cases h
    rfl

/-- So is an option, and the slot is an enum. -/
theorem Slot.addOption_eq_ok {siblings : List Slot} {id : SlotId} {option : Slot}
    (h : slot.addOption siblings id option = .ok other) : other = slot.offering [id] := by
  rw [Slot.addOption] at h
  split at h
  · cases h
  · obtain ⟨_, -, h⟩ := steps_eq_ok h
    cases h
    rw [Slot.offering, List.isEmpty_cons, Bool.not_false, Bool.or_true]

/-- Nesting a slot changes neither the default nor the value of its owner. -/
theorem Slot.addNested_same {siblings : List Slot} {id : SlotId} {nested : Slot}
    (h : slot.addNested siblings id nested = .ok other) :
    other.default = slot.default ∧ other.value = slot.value := by
  rw [addNested_eq_ok h]
  exact ⟨rfl, rfl⟩

/-- Nor does an option. -/
theorem Slot.addOption_same {siblings : List Slot} {id : SlotId} {option : Slot}
    (h : slot.addOption siblings id option = .ok other) :
    other.default = slot.default ∧ other.value = slot.value := by
  rw [addOption_eq_ok h]
  exact ⟨rfl, rfl⟩

end Follows

/-- Every slot in bracket notation follows the default that it comes with. -/
theorem follows_of_read {text : String} {slots : List Slot} (h : Notation.read text = .ok slots) :
    ∀ slot ∈ slots, slot.Follows slot.default.toList := by
  obtain ⟨-, ws, -, rfl⟩ := Notation.read_eq_ok_iff.1 h
  intro slot hslot
  obtain ⟨w, -, rfl⟩ := List.mem_map.1 hslot
  by_cases hdefault : w.default = []
  · constructor
    · simp [Notation.Word.slot, hdefault]
    · simp [Notation.Word.slot, hdefault, firstGiven]
  · constructor
    · simp [Notation.Word.slot, hdefault]
    · simp [Notation.Word.slot, hdefault, firstGiven]

/-! ## What a call does to the slots -/

namespace HubM

variable {α β : Type} {p : HubM α} {k : α → HubM β} {hub : Hub}

/-- That a program leaves the slots alone. -/
def KeepsSlots (p : HubM α) : Prop := ∀ hub, (p.after hub).slots = hub.slots

/-- Programs that leave the slots alone one after the other. -/
theorem KeepsSlots.bind (hp : KeepsSlots p) (hk : ∀ a, KeepsSlots (k a)) :
    KeepsSlots (p >>= k) := by
  intro hub
  rw [after_bind]
  cases p.ended hub with
  | error failure => exact hp hub
  | ok a => exact (hk a _).trans (hp hub)

/-- Ending as told leaves the slots alone. -/
theorem keepsSlots_conclude (result : Except Failure α) : KeepsSlots (conclude result) := by
  intro hub
  cases result <;> rfl

/-- Reading leaves the slots alone. -/
theorem keepsSlots_reading (f : Hub → α) : KeepsSlots (reading f) := fun _ => rfl

/-- Checking a command leaves the slots alone. -/
theorem keepsSlots_validate (id : CommandId) : KeepsSlots (validate id) :=
  (keepsSlots_reading (·.commandAt id)).bind fun command =>
    (keepsSlots_reading fun hub => Grammar.layOut hub.slots command.arguments).bind fun _ =>
      keepsSlots_conclude _

/-- So do calls on registries and commands. -/
theorem keepsSlots_register (registry : RegistryId) (id : CommandId) :
    KeepsSlots (register registry id) :=
  (keepsSlots_validate id).bind fun _ =>
    (keepsSlots_reading (·.commandAt id)).bind fun _ =>
      (keepsSlots_reading (·.registryAt registry)).bind fun _ =>
        KeepsSlots.bind (fun _ => rfl) fun _ _ => rfl

theorem keepsSlots_buildCommand (id : CommandId) (change : Command → Except BuildError Command) :
    KeepsSlots (buildCommand id change) :=
  (keepsSlots_reading (·.commandAt id)).bind fun _ =>
    (keepsSlots_conclude _).bind fun _ _ => rfl

theorem keepsSlots_addArgument (id : CommandId) (argument : SlotId) :
    KeepsSlots (addArgument id argument) :=
  (keepsSlots_reading (·.commandAt id)).bind fun command =>
    (keepsSlots_reading fun hub => command.arguments.filterMap (hub.slots[·]?)).bind fun _ =>
      (keepsSlots_reading (·.slotAt argument)).bind fun _ =>
        (keepsSlots_conclude _).bind fun _ _ => rfl

/-- Changing a slot. -/
theorem after_changeSlot (id : SlotId) (change : Slot → Except Failure Slot) (hub : Hub) :
    ((changeSlot id change).after hub).slots =
      match change (hub.slotAt id) with
      | .ok other => hub.slots.set id other
      | .error _ => hub.slots := by
  rw [after, changeSlot, bind_ok (slot_eq id hub)]
  cases change (hub.slotAt id) <;> rfl

/-- Nesting a slot is all or nothing. -/
theorem addNested_eq (owner nested : SlotId) (hub : Hub) :
    addNested owner nested hub =
      match (hub.slotAt owner).addNested ((hub.slotAt owner).children.filterMap (hub.slots[·]?))
        nested (hub.slotAt nested) with
      | .ok other => .ok () (hub.storing (hub.slots.set owner other))
      | .error e => .error (.build e) hub := by
  rw [addNested, bind_ok (slot_eq owner hub), bind_ok (slotsOf_eq _ hub),
    bind_ok (slot_eq nested hub)]
  cases (hub.slotAt owner).addNested ((hub.slotAt owner).children.filterMap (hub.slots[·]?))
    nested (hub.slotAt nested) <;> rfl

/-- Nesting a slot. -/
theorem after_addNested (owner nested : SlotId) (hub : Hub) :
    ((addNested owner nested).after hub).slots =
      match (hub.slotAt owner).addNested ((hub.slotAt owner).children.filterMap (hub.slots[·]?))
        nested (hub.slotAt nested) with
      | .ok other => hub.slots.set owner other
      | .error _ => hub.slots := by
  rw [after, addNested_eq]
  cases (hub.slotAt owner).addNested ((hub.slotAt owner).children.filterMap (hub.slots[·]?))
    nested (hub.slotAt nested) <;> rfl

/-- A slot that may have options is refused one only for its place, after others. -/
theorem Slot.isEnum_of_addOption {slot option : Slot} {store : List Slot} {id : SlotId}
    {e : BuildError} (hmay : (slot.children.isEmpty || slot.isEnum) = true)
    (h : slot.addOption (slot.children.filterMap (store[·]?)) id option = .error e) :
    slot.isEnum = true := by
  by_contra hplain
  rw [Bool.not_eq_true] at hplain
  have hchildren : slot.children = [] := by simpa [hplain] using hmay
  have haccepted : slot.addOption (slot.children.filterMap (store[·]?)) id option =
      .ok { slot with isEnum := true, children := [] ++ [id] } := by
    simp [Slot.addOption, Slot.checkOrder, hchildren, bind, Except.bind]
  rw [haccepted] at h
  cases h

/-- Marking a slot as an enum leaves every slot as it is, up to that mark. -/
theorem slotAt_marked (owner i : SlotId) (hub : Hub) :
    (hub.storing (hub.slots.set owner (hub.slotAt owner).marked)).slotAt i = hub.slotAt i ∨
      (hub.storing (hub.slots.set owner (hub.slotAt owner).marked)).slotAt i =
        (hub.slotAt i).marked := by
  rw [Hub.slotAt, Hub.storing_slots, List.getElem?_set]
  split
  · next howner =>
    subst howner
    split
    · exact Or.inr rfl
    · next hge =>
      left
      rw [Hub.slotAt, List.getElem?_eq_none (Nat.le_of_not_lt hge)]
  · exact Or.inl rfl

/-- **Giving a slot an option** is all or nothing. Where the option is refused for its
place, the slot has options already, so that the mark that was set was there before. -/
theorem addOption_eq (owner option : SlotId) (hub : Hub) :
    addOption owner option hub =
      match (hub.slotAt owner).addOption ((hub.slotAt owner).children.filterMap (hub.slots[·]?))
        option (hub.slotAt option) with
      | .ok other => .ok () (hub.storing (hub.slots.set owner other))
      | .error e => .error (.build e) hub := by
  rw [addOption, bind_ok (slot_eq owner hub), bind_ok (slotsOf_eq _ hub)]
  by_cases hmay : ((hub.slotAt owner).children.isEmpty || (hub.slotAt owner).isEnum) = true
  · have hmark : setSlot owner (hub.slotAt owner).marked hub =
        .ok () (hub.storing (hub.slots.set owner (hub.slotAt owner).marked)) := rfl
    -- of the option only its name and whether it is optional are looked at
    have hsame : (hub.slotAt owner).addOption
          ((hub.slotAt owner).children.filterMap (hub.slots[·]?)) option
          ((hub.storing (hub.slots.set owner (hub.slotAt owner).marked)).slotAt option) =
        (hub.slotAt owner).addOption ((hub.slotAt owner).children.filterMap (hub.slots[·]?))
          option (hub.slotAt option) := by
      rcases slotAt_marked owner option hub with h | h
      · rw [h]
      · rw [h]
        rfl
    simp only [hmay, if_true]
    rw [bind_ok hmark, bind_ok (slot_eq option _), hsame]
    cases hadd : (hub.slotAt owner).addOption
        ((hub.slotAt owner).children.filterMap (hub.slots[·]?)) option (hub.slotAt option) with
    | ok other =>
      have hset := List.set_set (a := (hub.slotAt owner).marked) (b := other) (l := hub.slots)
        (i := owner)
      exact congrArg (fun store => EStateM.Result.ok () (hub.storing store)) hset
    | error e =>
      have hmarked : (hub.slotAt owner).marked = hub.slotAt owner := by
        rw [Slot.marked, ← Slot.isEnum_of_addOption hmay hadd]
      have hkept : hub.slots.set owner (hub.slotAt owner) = hub.slots :=
        (hub.set_slotAt owner id).trans (List.modify_id owner hub.slots)
      rw [hmarked, hkept]
      rfl
  · simp only [hmay, Bool.false_eq_true, if_false]
    rw [bind_ok (slot_eq option hub)]
    cases (hub.slotAt owner).addOption
      ((hub.slotAt owner).children.filterMap (hub.slots[·]?)) option (hub.slotAt option) <;> rfl

/-- Giving a slot an option. -/
theorem after_addOption (owner option : SlotId) (hub : Hub) :
    ((addOption owner option).after hub).slots =
      match (hub.slotAt owner).addOption ((hub.slotAt owner).children.filterMap (hub.slots[·]?))
        option (hub.slotAt option) with
      | .ok other => hub.slots.set owner other
      | .error _ => hub.slots := by
  rw [after, addOption_eq]
  cases (hub.slotAt owner).addOption ((hub.slotAt owner).children.filterMap (hub.slots[·]?))
    option (hub.slotAt option) <;> rfl

/-- New slots are kept under the next numbers. -/
theorem mapM_newSlot (slots : List Slot) (hub : Hub) :
    slots.mapM newSlot hub =
      .ok (List.range' hub.slots.length slots.length) (hub.storing (hub.slots ++ slots)) := by
  induction slots generalizing hub with
  | nil =>
    rw [List.append_nil]
    rfl
  | cons slot slots ih =>
    have hnew : newSlot slot hub = .ok hub.slots.length (hub.storing (hub.slots ++ [slot])) := rfl
    have hrest := ih (hub.storing (hub.slots ++ [slot]))
    rw [List.mapM_cons, bind_ok hnew, bind_ok hrest, Hub.storing_slots, List.append_assoc,
      List.length_append]
    rfl

/-- Slots under the next numbers. -/
theorem map_range'_append (before slots : List Slot) :
    (List.range' before.length slots.length).map ((before ++ slots)[·]?) = slots.map some := by
  refine List.ext_getElem (by simp) fun k hk _ => ?_
  rw [List.length_map, List.length_range'] at hk
  simp [hk]

/-- **Reading bracket notation** keeps the slots that were read, or nothing. -/
theorem infer_eq (text : String) (hub : Hub) :
    infer text hub =
      match Notation.read text with
      | .ok slots =>
        .ok (List.range' hub.slots.length slots.length) (hub.storing (hub.slots ++ slots))
      | .error e => .error (.build e) hub := by
  cases hread : Notation.read text with
  | error e =>
    have hbuild : (build (.error e) : HubM (List Slot)) hub = .error (.build e) hub := rfl
    rw [infer, hread, bind_error hbuild]
  | ok slots =>
    have hbuild : (build (.ok slots) : HubM (List Slot)) hub = .ok slots hub := rfl
    rw [infer, hread, bind_ok hbuild, mapM_newSlot]

/-- Reading bracket notation keeps the slots that were read. -/
theorem after_infer (text : String) (hub : Hub) :
    ((infer text).after hub).slots =
      match Notation.read text with
      | .ok slots => hub.slots ++ slots
      | .error _ => hub.slots := by
  rw [after, infer_eq]
  cases Notation.read text <;> rfl

end HubM

/-! ## Any history -/

namespace Construction

variable {c : Construction} {call : BuilderCall} {id : SlotId} {other : Slot} {more : List Slot}

/-- **That slots follow their defaults**, and that no default was given to a slot
that is not there. -/
structure Faithful (c : Construction) : Prop where
  /-- Each slot follows the defaults that it was given. -/
  follows : ∀ i (slot : Slot), c.hub.slots[i]? = some slot → slot.Follows (c.given i)
  /-- A slot that is not there was given none. -/
  fresh : ∀ i, c.hub.slots.length ≤ i → c.given i = []

/-- What is there after a call is what the call leaves. -/
theorem after_hub : (c.after call).hub = call.run.after c.hub := rfl

/-- A slot was given what it was given before, and what the call gives. -/
theorem after_given (i : SlotId) :
    (c.after call).given i = c.given i ++ (call.default? c.hub i).toList := rfl

/-- A slot to which the call gives no default was given what it was given before. -/
theorem after_given_of_none {i : SlotId} (hnone : call.default? c.hub i = none) :
    (c.after call).given i = c.given i := by
  rw [after_given, hnone, Option.toList_none, List.append_nil]

/-- A call that leaves the slots alone and gives no default. -/
theorem Faithful.keep (h : c.Faithful) (hslots : (call.run.after c.hub).slots = c.hub.slots)
    (hnone : ∀ i, call.default? c.hub i = none) : (c.after call).Faithful := by
  constructor
  · intro i slot hslot
    rw [after_hub, hslots] at hslot
    rw [after_given_of_none (hnone i)]
    exact h.follows i slot hslot
  · intro i hi
    rw [after_hub, hslots] at hi
    rw [after_given_of_none (hnone i)]
    exact h.fresh i hi

/-- A call that changes one slot, and gives a default to no other. -/
theorem Faithful.set (h : c.Faithful)
    (hslots : (call.run.after c.hub).slots = c.hub.slots.set id other)
    (hother : ∀ slot, c.hub.slots[id]? = some slot →
      other.Follows (c.given id ++ (call.default? c.hub id).toList))
    (hnone : ∀ i, i ≠ id ∨ c.hub.slots[id]? = none → call.default? c.hub i = none) :
    (c.after call).Faithful := by
  constructor
  · intro i slot hslot
    rw [after_hub, hslots, List.getElem?_set] at hslot
    split at hslot
    · next hid =>
      subst hid
      split at hslot
      · next hlt =>
        cases hslot
        exact hother _ (List.getElem?_eq_getElem hlt)
      · cases hslot
    · next hid =>
      rw [after_given_of_none (hnone i (Or.inl (Ne.symm hid)))]
      exact h.follows i slot hslot
  · intro i hi
    rw [after_hub, hslots, List.length_set] at hi
    have hno : call.default? c.hub i = none := by
      by_cases hid : i = id
      · exact hnone i (Or.inr (List.getElem?_eq_none (hid ▸ hi)))
      · exact hnone i (Or.inl hid)
    rw [after_given_of_none hno]
    exact h.fresh i hi

/-- A call that brings new slots, each with the default that it comes with. -/
theorem Faithful.append (h : c.Faithful)
    (hslots : (call.run.after c.hub).slots = c.hub.slots ++ more)
    (hmore : ∀ slot ∈ more, slot.Follows slot.default.toList)
    (hdefault : ∀ i, call.default? c.hub i =
      if i < c.hub.slots.length then none
      else (more[i - c.hub.slots.length]?).bind (·.default)) : (c.after call).Faithful := by
  constructor
  · intro i slot hslot
    rw [after_hub, hslots, List.getElem?_append] at hslot
    split at hslot
    · next hlt =>
      have hno : call.default? c.hub i = none := by rw [hdefault, if_pos hlt]
      rw [after_given_of_none hno]
      exact h.follows i slot hslot
    · next hge =>
      -- the slot is new, so nothing was given to its number before
      rw [after_given, hdefault, if_neg hge, hslot, h.fresh i (Nat.le_of_not_lt hge),
        List.nil_append]
      exact hmore slot (List.mem_of_getElem? hslot)
  · intro i hi
    rw [after_hub, hslots, List.length_append] at hi
    have hge : ¬ i < c.hub.slots.length := by omega
    have hle : more.length ≤ i - c.hub.slots.length := by omega
    have hno : call.default? c.hub i = none := by
      rw [hdefault, if_neg hge, List.getElem?_eq_none hle, Option.bind_none]
    rw [after_given_of_none hno]
    exact h.fresh i (Nat.le_of_not_lt hge)

/-- A change of a slot that neither touches its default nor its value. -/
theorem Faithful.set_same (h : c.Faithful)
    (hslots : (call.run.after c.hub).slots = c.hub.slots.set id other)
    (hdefault : other.default = (c.hub.slotAt id).default)
    (hvalue : other.value = (c.hub.slotAt id).value)
    (hnone : ∀ i, call.default? c.hub i = none) : (c.after call).Faithful := by
  refine h.set hslots (fun slot hslot => ?_) fun i _ => hnone i
  rw [Hub.slotAt_eq hslot] at hdefault hvalue
  rw [hnone id, Option.toList_none, List.append_nil]
  exact (h.follows id slot hslot).of_same hdefault hvalue

/-- A call on a slot. -/
theorem Faithful.onSlot {call : SlotCall} (h : c.Faithful) :
    (c.after (.onSlot id call)).Faithful := by
  have hslots := HubM.after_changeSlot id call.change c.hub
  cases hslot : c.hub.slots[id]? with
  | none =>
    -- a slot that is not there cannot be changed
    have hkeep : ((BuilderCall.onSlot id call).run.after c.hub).slots = c.hub.slots := by
      refine hslots.trans ?_
      split
      · exact List.set_eq_of_length_le (List.getElem?_eq_none_iff.1 hslot)
      · rfl
    refine h.keep hkeep fun i => ?_
    rw [BuilderCall.default?]
    split
    · next hid => rw [← hid, hslot, Option.bind_none]
    · rfl
  | some slot =>
    rw [Hub.slotAt_eq hslot] at hslots
    cases hchange : call.change slot with
    | error failure =>
      -- a call that is refused gives no default
      rw [hchange] at hslots
      refine h.keep hslots fun i => ?_
      rw [BuilderCall.default?]
      split
      · next hid =>
        rw [← hid, hslot, Option.bind_some, hchange]
        rfl
      · rfl
    | ok other =>
      rw [hchange] at hslots
      refine h.set hslots (fun slot' hslot' => ?_) fun i hi => ?_
      · have hgives : (BuilderCall.onSlot id call).default? c.hub id = call.default? := by
          rw [BuilderCall.default?, if_pos rfl, hslot, Option.bind_some, hchange]
          rfl
        rw [hgives]
        exact (h.follows id slot hslot).change hchange
      · rw [BuilderCall.default?]
        rcases hi with hne | hnone
        · rw [if_neg (Ne.symm hne)]
        · rw [hslot] at hnone
          cases hnone

/-- A new slot. -/
theorem Faithful.newSlot {name : String} {optional : Bool} (h : c.Faithful) :
    (c.after (.newSlot name optional)).Faithful := by
  cases hmake : Slot.make name optional with
  | error e =>
    refine h.keep ?_ fun _ => rfl
    rw [BuilderCall.run, hmake]
    rfl
  | ok slot =>
    have hslots : ((BuilderCall.newSlot name optional).run.after c.hub).slots =
        c.hub.slots ++ [slot] := by
      rw [BuilderCall.run, hmake]
      rfl
    have hnew : slot.default = none ∧ slot.value = "" := by
      rw [Slot.make] at hmake
      split at hmake
      · cases hmake
      · cases hmake
        exact ⟨rfl, rfl⟩
    refine h.append hslots (fun s hs => ?_) fun i => ?_
    · rw [List.mem_singleton] at hs
      rw [hs, hnew.1]
      exact ⟨hnew.1, hnew.2⟩
    · split
      · rfl
      · cases hget : [slot][i - c.hub.slots.length]? with
        | none => rfl
        | some s =>
          have hs := List.mem_singleton.1 (List.mem_of_getElem? hget)
          rw [Option.bind_some, hs, hnew.1]
          rfl

/-- New slots from bracket notation. -/
theorem Faithful.infer {text : String} (h : c.Faithful) : (c.after (.infer text)).Faithful := by
  have hslots : ((BuilderCall.infer text).run.after c.hub).slots =
      ((HubM.infer text).after c.hub).slots := by
    rw [BuilderCall.run, HubM.after_bind]
    cases (HubM.infer text).ended c.hub <;> rfl
  rw [HubM.after_infer] at hslots
  cases hread : Notation.read text with
  | error e =>
    rw [hread] at hslots
    refine h.keep hslots fun i => ?_
    rw [BuilderCall.default?, hread]
  | ok slots =>
    rw [hread] at hslots
    refine h.append hslots ?_ fun i => ?_
    · exact follows_of_read hread
    · rw [BuilderCall.default?, hread]

/-- **Every builder call** keeps slots to the defaults that they were given. -/
theorem Faithful.after (h : c.Faithful) (call : BuilderCall) : (c.after call).Faithful := by
  cases call with
  | onSlot id call => exact h.onSlot
  | newSlot name optional => exact h.newSlot
  | infer text => exact h.infer
  | addNested owner nested =>
    have hslots := HubM.after_addNested owner nested c.hub
    split at hslots
    · next hnested =>
      obtain ⟨hdefault, hvalue⟩ := Slot.addNested_same hnested
      exact h.set_same hslots hdefault hvalue fun _ => rfl
    · exact h.keep hslots fun _ => rfl
  | addOption owner option =>
    have hslots := HubM.after_addOption owner option c.hub
    split at hslots
    · next hoption =>
      obtain ⟨hdefault, hvalue⟩ := Slot.addOption_same hoption
      exact h.set_same hslots hdefault hvalue fun _ => rfl
    · exact h.keep hslots fun _ => rfl
  | newCommand name =>
    refine h.keep ?_ fun _ => rfl
    rw [BuilderCall.run]
    cases Command.make name <;> rfl
  | onCommand id call => exact h.keep (HubM.keepsSlots_buildCommand id call.change _) fun _ => rfl
  | addArgument id argument =>
    exact h.keep (HubM.keepsSlots_addArgument id argument _) fun _ => rfl
  | newRegistry marker colorful fancy => exact h.keep rfl fun _ => rfl
  | onRegistry id call => exact h.keep rfl fun _ => rfl
  | register registry id => exact h.keep (HubM.keepsSlots_register registry id _) fun _ => rfl

end Construction

/-- What is there after one more call. -/
theorem construct_concat (calls : List BuilderCall) (call : BuilderCall) :
    construct (calls ++ [call]) = (construct calls).after call := by
  rw [construct, List.foldl_append]
  rfl

/-- **Whatever the builder calls were**, each slot has the last default that it was
given and holds the first that is not empty. -/
theorem faithful_construct (calls : List BuilderCall) : (construct calls).Faithful := by
  induction calls using List.reverseRecOn with
  | nil =>
    constructor
    · intro i slot hslot
      cases hslot
    · intro i _
      rfl
  | append_singleton calls call ih =>
    rw [construct_concat]
    exact ih.after call

end Chatline
