import Chatline.Proofs.Dispatch.Journal
import Chatline.Proofs.Grammar.Reach
import Chatline.Proofs.Hub.Lines
/-!
# Slots after a dispatched line

Whatever callbacks do, a line changes the values of slots only, and only of slots that
belong to commands which its journal names: `Contained` says so of a part of the
dispatcher, where the slots in `busy` belong to a call that is under way. When the call
ends, its slots have their fallbacks again (`slots_after_parseWithin`), also when it
ends with a failure and when lines within it called the same command.

Unlike in `Steady`, callbacks may keep a state of their own here.
-/

namespace Chatline

open Grammar

/-! ## Hubs that are alike -/

namespace Hub

variable {base hub : Hub} {id : CommandId} {i : SlotId}

/-- **A hub like another**: only values of slots, counters and what was observed differ. -/
structure Akin (base hub : Hub) : Prop where
  /-- The rest is the same. -/
  same : hub = { base with slots := hub.slots, counters := hub.counters, events := hub.events }
  /-- The slots differ in their values alone. -/
  alike : Alike hub.slots base.slots

theorem akin_refl (base : Hub) : base.Akin base := ⟨rfl, rfl⟩

namespace Akin

theorem commands_eq (h : base.Akin hub) : hub.commands = base.commands := by
  rw [h.same]

theorem registries_eq (h : base.Akin hub) : hub.registries = base.registries := by
  rw [h.same]

theorem commandAt_eq (h : base.Akin hub) : hub.commandAt id = base.commandAt id := by
  rw [commandAt, h.same, commandAt]

theorem registryAt_eq {r : RegistryId} (h : base.Akin hub) :
    hub.registryAt r = base.registryAt r := by
  rw [registryAt, h.same, registryAt]

theorem owned_eq (h : base.Akin hub) : hub.owned id = base.owned id := by
  rw [owned, h.commandAt_eq, h.alike.ids_layOut, owned]

theorem logged {records : List Event} (h : base.Akin hub) : base.Akin (hub.logged records) := by
  refine ⟨?_, h.alike⟩
  rw [Hub.logged, h.same]

theorem counting {counters : List Nat} (h : base.Akin hub) :
    base.Akin { hub with counters := counters } := by
  refine ⟨?_, h.alike⟩
  rw [h.same]

theorem storing {store : List Slot} (h : base.Akin hub) (hstore : Alike store hub.slots) :
    base.Akin (hub.storing store) := by
  refine ⟨?_, hstore.trans h.alike⟩
  rw [Hub.storing, h.same]

end Akin

/-- **A slot of a command**: a root slot, or one nested in a slot of the command. -/
inductive Owns (hub : Hub) (id : CommandId) : SlotId → Prop
  /-- A root slot. -/
  | root {i : SlotId} {slot : Slot} : i ∈ (hub.commandAt id).arguments →
      hub.slots[i]? = some slot → Owns hub id i
  /-- A slot nested in another. -/
  | nested {i j : SlotId} {owner slot : Slot} : Owns hub id j → hub.slots[j]? = some owner →
      i ∈ owner.children → hub.slots[i]? = some slot → Owns hub id i

/-- What a command owns are its slots, however far down. -/
theorem mem_owned_iff : i ∈ hub.owned id ↔ hub.Owns id i := by
  constructor
  · -- by induction on the level that the slot is laid out at
    have hlevel : ∀ depth i, i ∈ (unfold hub.slots depth (hub.commandAt id).arguments).ids →
        hub.Owns id i := by
      intro depth
      induction depth with
      | zero =>
        intro i hi
        cases hi
      | succ depth ih =>
        intro i hi
        obtain ⟨⟨slot, hslot⟩, hroot | ⟨j, hj, owner, howner, hchild⟩⟩ :=
          mem_ids_unfold_succ.1 hi
        · exact .root hroot hslot
        · exact .nested (ih j hj) howner hchild hslot
    exact hlevel _ i
  · intro h
    induction h with
    | root hroot hslot =>
      exact mem_layOut_iff.2 (mem_ids_unfold_succ.2 ⟨⟨_, hslot⟩, Or.inl hroot⟩)
    | nested _ howner hchild hslot ih =>
      exact mem_layOut_iff.2 (mem_ids_unfold_succ.2 ⟨⟨_, hslot⟩, Or.inr ⟨_, ih, _, howner, hchild⟩⟩)

end Hub

/-! ## What is called -/

/-- The command that an entry says is called, also from within. -/
def Entry.call? : Entry → Option CommandId
  | .called id => some id
  | .within entry => entry.call?
  | _ => none

/-- The commands that are called according to a journal. -/
def calls (entries : List Entry) : List CommandId := entries.filterMap Entry.call?

@[simp] theorem calls_append (entries more : List Entry) :
    calls (entries ++ more) = calls entries ++ calls more :=
  List.filterMap_append

@[simp] theorem calls_within (entries : List Entry) :
    calls (entries.map .within) = calls entries := by
  rw [calls, List.filterMap_map]
  rfl

namespace HubM

variable {hub : Hub}

/-- **What keeping a match leaves**: the values are written, and the rest goes into the
log, also if the match failed. -/
theorem after_keepMatch (command : Command) (outcome : Outcome) (unread : List String) (hub : Hub) :
    ∃ records, (keepMatch command outcome unread).after hub =
      (hub.storing (written hub.slots outcome.bound)).logged records := by
  rw [after, keepMatch, bind_ok (writeAll_eq _ _), bind_ok (forM_log _ _ _)]
  cases outcome.result with
  | error failure => exact ⟨_, rfl⟩
  | ok left =>
    have hresult : (conclude (.ok left) : HubM (List String)) = pure left := rfl
    rw [hresult, pure_bind]
    dsimp only
    cases (left.map Text.quoted ++ unread).isEmpty with
    | true => exact ⟨_, rfl⟩
    | false => exact ⟨_, Hub.logged_logged _ _ _⟩

/-- A match writes slots of its command. -/
theorem after_matchWords (id : CommandId) (words : List String) (usage : String) (hub : Hub) :
    ∃ bound records, (∀ b ∈ bound, b.slot ∈ hub.owned id) ∧
      (matchWords id words usage).after hub =
        (hub.storing (written hub.slots bound)).logged records := by
  obtain ⟨records, hafter⟩ := after_keepMatch (hub.commandAt id)
    ((layOut hub.slots (hub.commandAt id).arguments).walk usage [] words) [] hub
  exact ⟨_, records, bindsIn_ids usage [] _ words, hafter⟩

/-- Putting a fault on the console is a record at most. -/
theorem after_deliver_none {nested : Dispatcher} (fault : Fault) (hub : Hub) :
    ∃ records, (deliver nested none fault).after hub = hub.logged records := by
  have hprint : ∃ records, (printFault fault).after hub = hub.logged records := by
    have hrun : printFault fault = (reading Hub.theme >>= fun theme =>
        conclude (Failure.ofMismatch (fault.report theme)) >>= fun report =>
          record (.console fault report)) := rfl
    have htheme : (reading Hub.theme).ended hub = .ok hub.theme := rfl
    rw [hrun, after_bind, htheme]
    dsimp only
    rw [after_bind]
    cases Failure.ofMismatch (fault.report hub.theme) with
    | ok report => exact ⟨[.console fault report], rfl⟩
    | error failure => exact ⟨[], hub.logged_nil.symm⟩
  unfold deliver
  dsimp only
  split
  · exact hprint
  · exact hprint
  · exact hprint
  · exact ⟨[], hub.logged_nil.symm⟩

end HubM

namespace Journalled

variable {α β : Type} {base : Hub} {busy : List SlotId}

/-- That a program changes only values of slots, counters and what was observed. -/
def Keeps (base : Hub) (p : Journalled α) : Prop :=
  ∀ hub, base.Akin hub → base.Akin (p.run.after hub)

/-- **A program that stays with its slots**: it changes the values of slots only, and of
those only the busy ones and the ones of commands that it enters as called. -/
structure Contained (base : Hub) (busy : List SlotId) (p : Journalled α) : Prop where
  /-- Only values of slots, counters and what was observed change. -/
  keeps : Keeps base p
  /-- The other slots stay as they are. -/
  spares : ∀ hub, base.Akin hub → ∀ i ∉ busy, (∀ id ∈ calls (p.entries hub), i ∉ base.owned id) →
    (p.run.after hub).slots[i]? = hub.slots[i]?

namespace Contained

variable {p : Journalled α} {k : α → Journalled β}

theorem bind (hp : Contained base busy p) (hk : ∀ a, Contained base busy (k a)) :
    Contained base busy (p >>= k) := by
  constructor
  · intro hub h
    rw [run_bind, HubM.after_bind]
    cases p.run.ended hub with
    | error failure => exact hp.keeps hub h
    | ok a => exact (hk a).keeps _ (hp.keeps hub h)
  · -- a step that does not come about enters nothing and writes nothing
    intro hub h i hi hcalls
    rw [run_bind, HubM.after_bind]
    rw [entries_bind, calls_append] at hcalls
    have hfirst := hp.spares hub h i hi fun id hid => hcalls id (List.mem_append_left _ hid)
    cases hended : p.run.ended hub with
    | error failure => exact hfirst
    | ok a =>
      rw [hended] at hcalls
      have hnext := (hk a).spares _ (hp.keeps hub h) i hi
        fun id hid => hcalls id (List.mem_append_right _ hid)
      exact hnext.trans hfirst

/-- A program that enters nothing and does no more than log is contained. -/
theorem logging {program : HubM α} (h : ∀ hub, ∃ records, program.after hub = hub.logged records) :
    Contained base busy (quietly program) := by
  constructor
  · intro hub hakin
    obtain ⟨records, hafter⟩ := h hub
    rw [run_quietly, hafter]
    exact hakin.logged
  · intro hub hakin i hi hcalls
    obtain ⟨records, hafter⟩ := h hub
    rw [run_quietly, hafter]
    rfl

theorem still {program : HubM α} (h : ∀ hub, program.after hub = hub) :
    Contained base busy (quietly program) :=
  logging fun hub => ⟨[], (h hub).trans hub.logged_nil.symm⟩

theorem pure (a : α) : Contained base busy (Pure.pure a : Journalled α) := still fun _ => rfl

theorem record (event : Event) : Contained base busy (quietly (HubM.record event)) :=
  logging fun _ => ⟨[event], rfl⟩

theorem conclude (result : Except Failure α) :
    Contained base busy (quietly (HubM.conclude result)) := by
  cases result <;> exact still fun _ => rfl

theorem throw_bind (failure : Failure) :
    Contained base busy (quietly (throw failure : HubM α) >>= k) :=
  ⟨fun _ h => h, fun _ _ _ _ _ => rfl⟩

theorem attempt (hp : Contained base busy p) : Contained base busy (Journalled.attempt p) := by
  constructor
  · intro hub h
    rw [run_attempt, HubM.after_attempt]
    exact hp.keeps hub h
  · intro hub h i hi hcalls
    rw [run_attempt, HubM.after_attempt]
    exact hp.spares hub h i hi hcalls

/-- Entering a callback is contained, as long as it is not entered as a call. -/
theorem enter {entry : Except Failure α → Entry} (hp : Contained base busy p) :
    Contained base busy (Journalled.enter entry p) := by
  refine ⟨hp.keeps, fun hub h i hi hcalls => hp.spares hub h i hi fun id hid => hcalls id ?_⟩
  rw [entries_enter, calls_append, calls_within]
  exact List.mem_append_left _ hid

end Contained

/-! ## Dispatching is contained -/

/-- That all lines that are dispatched from within are contained. -/
def ContainedDispatcher (base : Hub) (nested : Dispatcher) : Prop :=
  ∀ busy registry line level, Contained base busy (nested registry line level)

variable {nested : Dispatcher} {registry : Registry} {id : CommandId}
variable {line called : String} {words : List String} {level : Datum}

/-- **A callback is contained**, whatever it does. -/
theorem contained_routine (hn : ContainedDispatcher base nested) (r : Routine α) :
    Contained base busy (routine nested r) := by
  induction r with
  | done value => exact .pure value
  | fail failure => exact .still fun _ => rfl
  | note n next ih => exact (Contained.record _).bind fun _ => ih
  | look next ih => exact (Contained.still fun _ => rfl).bind fun hub => ih hub.toScene
  | draw counter next ih =>
    exact Contained.bind ⟨fun _ h => h.counting, fun _ _ _ _ _ => rfl⟩ ih
  | dispatch registry line level next ih => exact (hn busy _ _ _).attempt.bind ih

theorem contained_deliver {sink : Option Sink} {fault : Fault}
    (hn : ContainedDispatcher base nested) : Contained base busy (deliver nested sink fault) := by
  refine Contained.enter ?_
  cases sink with
  | some sink => exact (contained_routine hn (sink fault)).bind fun _ => .pure ()
  | none => exact .logging fun hub => HubM.after_deliver_none fault hub

theorem contained_trigger {fault : Fault} (hn : ContainedDispatcher base nested) :
    Contained base busy (trigger nested registry fault) :=
  contained_deliver hn

theorem contained_check (hn : ContainedDispatcher base nested) :
    Contained base busy (check nested id) := by
  refine (Contained.still fun _ => rfl).bind fun command => ?_
  cases command.precondition with
  | none => exact .pure none
  | some precondition =>
    exact (contained_routine hn (precondition command.toSignature)).enter.bind fun _ => .pure _

theorem contained_pass (hn : ContainedDispatcher base nested) :
    Contained base busy (pass nested id) := by
  refine (contained_check hn).bind fun reason => ?_
  cases reason with
  | none => exact .pure ()
  | some reason =>
    exact (Contained.still fun _ => rfl).bind fun _ =>
      (Contained.conclude _).bind fun _ => .still fun _ => rfl

theorem contained_perform {subject : Subject} (hn : ContainedDispatcher base nested) :
    Contained base busy (perform nested id subject) := by
  refine (Contained.still fun _ => rfl).bind fun command => ?_
  cases command.action with
  | none => exact .still fun _ => rfl
  | some action => exact (contained_routine hn (action subject)).enter

/-- A match may write the slots of its command once they are busy. -/
theorem contained_matchWords {usage : String} (hown : base.owned id ⊆ busy) :
    Contained base busy (matchWords id words usage) := by
  refine Contained.enter ⟨fun hub h => ?_, fun hub h i hi _ => ?_⟩
  · obtain ⟨bound, records, -, hafter⟩ := HubM.after_matchWords id words usage hub
    rw [run_quietly, hafter]
    exact (h.storing alike_written).logged
  · obtain ⟨bound, records, hbound, hafter⟩ := HubM.after_matchWords id words usage hub
    rw [run_quietly, hafter]
    refine written_getElem?_of_notMem fun hmem => ?_
    obtain ⟨b, hb, rfl⟩ := List.mem_map.1 hmem
    exact hi (hown (h.owned_eq ▸ hbound b hb))

theorem contained_suggest {word : Datum} (hn : ContainedDispatcher base nested) :
    Contained base busy (suggest nested registry word) := by
  rw [suggest]
  cases hs : registry.suggester with
  | affix =>
    refine .still fun hub => ?_
    rw [HubM.suggest, hs]
    cases word <;> rfl
  | custom ask =>
    exact (Contained.still fun _ => rfl).bind fun commands =>
      (contained_routine hn (ask word _)).enter.bind fun _ => .conclude _

theorem contained_reportUnknown (hn : ContainedDispatcher base nested) :
    Contained base busy (reportUnknown nested registry called) := by
  refine (Contained.record _).bind fun _ => (contained_trigger hn).bind fun _ =>
    (contained_suggest hn).bind fun suggestions => ?_
  split
  · exact .pure ()
  · exact contained_trigger hn

/-- **A call is contained** while the slots of its command are busy. -/
theorem contained_call (hn : ContainedDispatcher base nested) (hown : base.owned id ⊆ busy) :
    Contained base busy (call nested registry id called words level) := by
  refine (Contained.still fun _ => rfl).bind fun command =>
    (Contained.conclude _).bind fun isDenied => ?_
  cases isDenied with
  | true => exact .throw_bind _
  | false =>
    exact (contained_pass hn).bind fun _ => (Contained.still fun _ => rfl).bind fun grammar =>
      (contained_matchWords hown).bind fun bindings => (Contained.record _).bind fun _ =>
        (contained_perform hn).bind fun _ => .pure ()

theorem contained_settle {ended : Except Failure Unit} (hn : ContainedDispatcher base nested) :
    Contained base busy (settle nested registry line ended) := by
  cases ended with
  | ok _ => exact .conclude _
  | error failure =>
    cases failure with
    | fault fault => exact (Contained.record _).bind fun _ => contained_trigger hn
    | _ => exact .conclude _

/-- Until the reset a line is contained while the slots of its command are busy. -/
theorem contained_reported (hn : ContainedDispatcher base nested) (hown : base.owned id ⊆ busy) :
    Contained base busy (reported nested registry id line called words level) :=
  (contained_call hn hown).attempt.bind fun _ => (contained_settle hn).attempt

/-- **Serving a line is contained**: it enters the call of its command. -/
theorem contained_serve (hn : ContainedDispatcher base nested) :
    Contained base busy (serve nested registry id line called words level) := by
  have hreported : Contained base (base.owned id ++ busy)
      (reported nested registry id line called words level) :=
    contained_reported hn (List.subset_append_left _ _)
  constructor
  · intro hub h
    rw [run_serve, HubM.after_serve, ← run_reported, HubM.after_resetCommand]
    exact (hreported.keeps hub h).storing (alike_resetIn _ _)
  · intro hub h i hi hcalls
    -- the call is entered first, so a slot of its command is not asked about
    rw [entries_serve] at hcalls
    obtain ⟨hown, hcalls⟩ := List.forall_mem_cons.1 hcalls
    have hbusy : i ∉ base.owned id ++ busy := fun hmem =>
      (List.mem_append.1 hmem).elim hown hi
    have hdone := hreported.keeps hub h
    have howned : (layOut _ (Hub.commandAt _ id).arguments).ids = base.owned id := hdone.owned_eq
    rw [run_serve, HubM.after_serve, ← run_reported, HubM.after_resetCommand, Hub.storing_slots,
      resetIn_getElem?, howned, if_neg hown]
    exact hreported.spares hub h i hbusy hcalls

/-- **Handling a line is contained** if the lines dispatched from within are. -/
theorem contained_parseWith (hn : ContainedDispatcher base nested) :
    ContainedDispatcher base (parseWith nested) := by
  intro busy r line level
  refine (Contained.still fun _ => rfl).bind fun registry => ?_
  cases registry.callIn? line with
  | none => exact .pure false
  | some line =>
    dsimp only
    cases Token.tokenize line with
    | nil => exact .pure false
    | cons called words =>
      refine (Contained.still fun _ => rfl).bind fun found => ?_
      cases found with
      | none => exact (contained_reportUnknown hn).bind fun _ => .pure true
      | some id => exact (contained_serve hn).bind fun _ => .pure true

theorem contained_parseWithin (base : Hub) (depth : Nat) :
    ContainedDispatcher base (parseWithin depth) := by
  induction depth with
  | zero => exact fun _ _ _ _ => .still fun _ => rfl
  | succ depth ih => exact contained_parseWith ih

end Journalled

/-! ## After a line -/

namespace Hub

open Journalled (parseWithin)

variable {hub : Hub} {id : CommandId} {i : SlotId} {slot : Slot}

/-- **A slot of the command that a line calls** has its fallback again when the line is
done. -/
theorem restored_of_called {line : Line} (depth : Nat) (h : hub.called? line = some id)
    (hown : hub.Owns id i) (hslot : hub.slots[i]? = some slot) :
    ((HubM.parseWithin (depth + 1) line.registry line.text line.level).after hub).slots[i]? =
      some { slot with value := slot.default.getD "" } := by
  obtain ⟨text, called, words, hserve⟩ := after_parseWith (HubM.parseWithin depth) h
  have hcontained : Journalled.Contained hub (hub.owned id) (Journalled.reported
      (parseWithin depth) (hub.registryAt line.registry) id text called words line.level) :=
    Journalled.contained_reported (Journalled.contained_parseWithin hub depth)
      (List.Subset.refl _)
  have hdone := hcontained.keeps hub (akin_refl hub)
  rw [Journalled.run_reported, Journalled.plain_parseWithin] at hdone
  -- the reset comes last, and it finds the slots that it started with, whatever they hold
  rw [HubM.parseWithin, hserve, HubM.after_serve, HubM.after_resetCommand, storing_slots]
  generalize HubM.after _ hub = done at hdone
  have howned : (layOut done.slots (done.commandAt id).arguments).ids = hub.owned id :=
    hdone.owned_eq
  rw [resetIn_getElem?, howned, if_pos (mem_owned_iff.2 hown), hdone.alike.getElem?_reset, hslot]
  rfl

/-- **What a line leaves in the slots**, whatever came of it. -/
theorem slots_after_parseWithin (depth : Nat) (hub : Hub) (line : Line) :
    Journalled.plain (parseWithin (depth + 1)) = HubM.parseWithin (depth + 1) ∧
    (∀ id, hub.called? line = some id → ∀ i slot, hub.Owns id i → hub.slots[i]? = some slot →
      ((HubM.parseWithin (depth + 1) line.registry line.text line.level).after hub).slots[i]? =
        some { slot with value := slot.default.getD "" }) ∧
    ∀ i, (∀ id ∈ calls ((parseWithin (depth + 1) line.registry line.text line.level).entries hub),
        ¬ hub.Owns id i) →
      ((HubM.parseWithin (depth + 1) line.registry line.text line.level).after hub).slots[i]? =
        hub.slots[i]? := by
  have hplain := Journalled.plain_parseWithin (depth + 1)
  refine ⟨hplain, fun id h i slot => restored_of_called depth h, fun i hcalls => ?_⟩
  have hcontained := Journalled.contained_parseWithin hub (depth + 1) [] line.registry line.text
    line.level
  have hsame := hcontained.spares hub (akin_refl hub) i List.not_mem_nil fun id hid hmem =>
    hcalls id hid (mem_owned_iff.1 hmem)
  rw [← hplain]
  exact hsame

/-- A line that fills three slots and fails for want of an action leaves their fallbacks. -/
example :
    let hub : Hub := { mail with registries := [{ commands := [0] }] }
    let line := HubM.parseWithin 1 0 "mail send ann hello" (.int 0)
    (line.ended hub).isOk = false ∧
      (line.after hub).slots.map Slot.value = ["READ", "", "", "", ""] := by
  decide +kernel

end Hub

end Chatline
