import Chatline.Proofs.Hub.Settled
import Chatline.Proofs.Match.Kept
/-!
# Steady programs

A program is steady if the hub does not stray from where it started
(`Hub.Settled`) and the program does not look at what was observed before it ran.
Steady programs are closed under all that dispatching is made of, as long as the
callbacks keep no state of their own. `steady_parse` says that dispatching a line
is steady whatever happens on the way: the slots of the command that was called
are reset at the end, also when the match, a callback or a sink fails, and also
in lines that callbacks dispatch.
-/

namespace Chatline

/-! ## Callbacks without a state -/

/-- **A routine without a state of its own** never draws from a counter. -/
inductive Routine.Stateless {α : Type} : Routine α → Prop
  /-- It ends with a value. -/
  | done (value : α) : Stateless (.done value)
  /-- It ends with a failure. -/
  | fail (failure : Failure) : Stateless (.fail failure)
  /-- It leaves a note and goes on. -/
  | note {n : Note} {next : Routine α} : Stateless next → Stateless (.note n next)
  /-- It looks at the scene and goes on. -/
  | look {next : Scene → Routine α} : (∀ scene, Stateless (next scene)) → Stateless (.look next)
  /-- It dispatches a line and goes on. -/
  | dispatch {registry : RegistryId} {line : String} {level : Datum}
      {next : Except Failure Bool → Routine α} : (∀ result, Stateless (next result)) →
      Stateless (.dispatch registry line level next)

/-- That the callbacks of a command keep no state. -/
structure Command.Stateless (command : Command) : Prop where
  /-- Its precondition keeps none. -/
  precondition : ∀ precondition, command.precondition = some precondition →
    ∀ signature, (precondition signature).Stateless
  /-- Its action keeps none. -/
  action : ∀ action, command.action = some action → ∀ subject, (action subject).Stateless

/-- That the callbacks of a registry keep no state. -/
structure Registry.Stateless (registry : Registry) : Prop where
  /-- Its sink keeps none. -/
  sink : ∀ sink, registry.sink = some sink → ∀ fault, (sink fault).Stateless
  /-- Its suggester keeps none. -/
  suggester : ∀ ask, registry.suggester = .custom ask →
    ∀ word commands, (ask word commands).Stateless

/-- That the callbacks of all that was built keep no state. -/
structure Hub.Stateless (hub : Hub) : Prop where
  /-- Those of the commands keep none. -/
  commands : ∀ command ∈ hub.commands, command.Stateless
  /-- Those of the registries keep none. -/
  registries : ∀ registry ∈ hub.registries, registry.Stateless

namespace Hub.Stateless

variable {hub : Hub}

/-- Nor do those of a command that a program sees. -/
theorem commandAt (h : hub.Stateless) (id : CommandId) : (hub.commandAt id).Stateless := by
  cases hc : hub.commands[id]? with
  | some command =>
    rw [Hub.commandAt, hc]
    exact h.commands command (List.mem_of_getElem? hc)
  | none =>
    rw [Hub.commandAt, hc]
    constructor
    · intro precondition hsome
      cases hsome
    · intro action hsome
      cases hsome

/-- Nor do those of a registry that a program sees. -/
theorem registryAt (h : hub.Stateless) (id : RegistryId) : (hub.registryAt id).Stateless := by
  cases hr : hub.registries[id]? with
  | some registry =>
    rw [Hub.registryAt, hr]
    exact h.registries registry (List.mem_of_getElem? hr)
  | none =>
    rw [Hub.registryAt, hr]
    constructor
    · intro precondition hsome
      cases hsome
    · intro action hsome
      cases hsome

end Hub.Stateless

namespace HubM

open Grammar

variable {α β : Type} {base hub : Hub} {busy : List SlotId}

/-! ## Steady programs -/

/-- **A steady program**: the hub does not stray, and the program does not look at
what was observed before. -/
structure Steady (base : Hub) (busy : List SlotId) (p : HubM α) : Prop where
  /-- The hub does not stray. -/
  keeps : ∀ hub, base.Settled busy hub → base.Settled busy (p.after hub)
  /-- The program ends as it would without earlier events. -/
  ends : ∀ hub earlier, base.Settled busy hub →
    p.ended (hub.recalling earlier) = p.ended hub
  /-- The program leaves the hub as it would without earlier events. -/
  leaves : ∀ hub earlier, base.Settled busy hub →
    p.after (hub.recalling earlier) = (p.after hub).recalling earlier

namespace Steady

variable {p : HubM α} {k : α → HubM β} {f : Hub → α}

/-- One steady step after the other. The second may count on what the first gives
where the hub has not strayed. -/
theorem bind_of (hp : Steady base busy p)
    (hk : ∀ hub a, base.Settled busy hub → p.ended hub = .ok a → Steady base busy (k a)) :
    Steady base busy (p >>= k) := by
  constructor
  · intro hub h
    rw [after_bind]
    cases hended : p.ended hub with
    | error failure => exact hp.keeps hub h
    | ok a => exact (hk hub a h hended).keeps _ (hp.keeps hub h)
  · intro hub earlier h
    rw [ended_bind, ended_bind, hp.ends hub earlier h]
    cases hended : p.ended hub with
    | error failure => rfl
    | ok a =>
      have hnext := (hk hub a h hended).ends _ earlier (hp.keeps hub h)
      simp only [hp.leaves hub earlier h, hnext]
  · intro hub earlier h
    rw [after_bind, after_bind, hp.ends hub earlier h]
    cases hended : p.ended hub with
    | error failure => exact hp.leaves hub earlier h
    | ok a =>
      have hnext := (hk hub a h hended).leaves _ earlier (hp.keeps hub h)
      simp only [hp.leaves hub earlier h, hnext]

/-- One steady step after the other. -/
theorem bind (hp : Steady base busy p) (hk : ∀ a, Steady base busy (k a)) :
    Steady base busy (p >>= k) :=
  hp.bind_of fun _ a _ _ => hk a

/-- Giving a result is steady. -/
theorem pure (a : α) : Steady base busy (Pure.pure a : HubM α) :=
  ⟨fun _ h => h, fun _ _ _ => rfl, fun _ _ _ => rfl⟩

/-- Failing is steady. -/
theorem throw (failure : Failure) : Steady base busy (MonadExcept.throw failure : HubM α) :=
  ⟨fun _ h => h, fun _ _ _ => rfl, fun _ _ _ => rfl⟩

/-- Ending as told is steady. -/
theorem conclude (result : Except Failure α) : Steady base busy (HubM.conclude result) := by
  cases result with
  | ok a => exact pure a
  | error failure => exact throw failure

/-- Catching a failure is steady. -/
theorem attempt (hp : Steady base busy p) : Steady base busy (HubM.attempt p) := by
  constructor
  · intro hub h
    rw [after_attempt]
    exact hp.keeps hub h
  · intro hub earlier h
    rw [ended_attempt, ended_attempt, hp.ends hub earlier h]
  · intro hub earlier h
    rw [after_attempt, after_attempt, hp.leaves hub earlier h]

/-- Recording is steady. -/
theorem record (event : Event) : Steady base busy (HubM.record event) := by
  refine ⟨fun hub h => h.logged, fun _ _ _ => rfl, fun hub earlier _ => ?_⟩
  exact congrArg (fun events => { hub with events }) (List.append_assoc _ _ _)

/-- Logging is steady. -/
theorem log (source : LogSource) (message : String) :
    Steady base busy (HubM.log source message) :=
  record _

/-- Logging some messages is steady. -/
theorem forM_log (source : LogSource) (messages : List String) :
    Steady base busy (messages.forM (HubM.log source)) := by
  induction messages with
  | nil => exact pure ()
  | cons message messages ih => exact (log source message).bind fun _ => ih

/-- Going on with what is read off the hub is steady, unless that is what was
observed. -/
theorem reading_bind (hf : ∀ hub earlier, f (hub.recalling earlier) = f hub)
    (hk : ∀ hub, base.Settled busy hub → Steady base busy (k (f hub))) :
    Steady base busy (reading f >>= k) := by
  have hread : Steady base busy (reading f) :=
    ⟨fun _ h => h, fun hub earlier _ => congrArg Except.ok (hf hub earlier), fun _ _ _ => rfl⟩
  refine hread.bind_of fun hub a h ha => ?_
  cases ha
  exact hk hub h

/-- Going on with a command is going on with the command as it was. -/
theorem command_bind {id : CommandId} {k : Command → HubM β}
    (hk : Steady base busy (k (base.commandAt id))) :
    Steady base busy (HubM.command id >>= k) := by
  refine reading_bind (f := (·.commandAt id)) (fun _ _ => rfl) fun hub h => ?_
  rw [h.commandAt_eq]
  exact hk

/-- Going on with a registry is going on with the registry as it was. -/
theorem registry_bind {id : RegistryId} {k : Registry → HubM β}
    (hk : Steady base busy (k (base.registryAt id))) :
    Steady base busy (HubM.registry id >>= k) := by
  refine reading_bind (f := (·.registryAt id)) (fun _ _ => rfl) fun hub h => ?_
  rw [h.registryAt_eq]
  exact hk

end Steady

/-! ## Dispatching is steady -/

/-- That all lines that are dispatched from within are steady. -/
def SteadyDispatcher (base : Hub) (nested : Dispatcher) : Prop :=
  ∀ busy registry line level, Steady base busy (nested registry line level)

variable {nested : Dispatcher} {id : CommandId} {registry : Registry} {fault : Fault}

/-- **A callback is steady** if it keeps no state. -/
theorem steady_run {routine : Routine α} (hn : SteadyDispatcher base nested)
    (hr : routine.Stateless) : Steady base busy (routine.run nested) := by
  induction hr with
  | done value => exact .pure value
  | fail failure => exact .throw failure
  | note _ ih => exact (Steady.record _).bind fun _ => ih
  | @look next _ ih =>
    have hrun : (Routine.look next).run nested =
        (reading Hub.toScene >>= fun scene => (next scene).run nested) := rfl
    rw [hrun]
    exact .reading_bind (fun _ _ => rfl) fun hub _ => ih hub.toScene
  | dispatch _ ih => exact (hn busy _ _ _).attempt.bind fun result => ih result

theorem steady_printFault (fault : Fault) : Steady base busy (printFault fault) := by
  have hprint : printFault fault = (reading Hub.theme >>= fun theme => do
      let report ← conclude (Failure.ofMismatch (fault.report theme))
      record (.console fault report)) := rfl
  rw [hprint]
  exact .reading_bind (fun _ _ => rfl) fun _ _ => (Steady.conclude _).bind fun _ => .record _

theorem steady_deliver {sink : Option Sink} (hn : SteadyDispatcher base nested)
    (hs : ∀ s, sink = some s → ∀ fault, (s fault).Stateless) :
    Steady base busy (deliver nested sink fault) := by
  cases sink with
  | some sink => exact (steady_run hn (hs sink rfl fault)).bind fun _ => .pure ()
  | none =>
    unfold deliver
    dsimp only
    split
    · exact steady_printFault fault
    · exact steady_printFault fault
    · exact steady_printFault fault
    · exact .throw _

theorem steady_trigger (hn : SteadyDispatcher base nested) (hr : registry.Stateless) :
    Steady base busy (trigger nested registry fault) :=
  steady_deliver hn hr.sink

theorem steady_check (hn : SteadyDispatcher base nested) (hs : base.Stateless) :
    Steady base busy (check nested id) := by
  refine Steady.command_bind ?_
  cases hp : (base.commandAt id).precondition with
  | none => exact .pure _
  | some precondition =>
    have hroutine := (hs.commandAt id).precondition precondition hp (base.commandAt id).toSignature
    exact (steady_run hn hroutine).bind fun _ => .pure _

theorem steady_pass (hn : SteadyDispatcher base nested) (hs : base.Stateless) :
    Steady base busy (pass nested id) := by
  refine (steady_check hn hs).bind fun reason => ?_
  cases reason with
  | none => exact .pure _
  | some reason =>
    refine Steady.command_bind ?_
    exact (Steady.conclude _).bind fun _ => .throw _

theorem steady_perform {subject : Subject} (hn : SteadyDispatcher base nested)
    (hs : base.Stateless) : Steady base busy (perform nested id subject) := by
  refine Steady.command_bind ?_
  cases ha : (base.commandAt id).action with
  | none => exact .throw _
  | some action => exact steady_run hn ((hs.commandAt id).action action ha subject)

/-- Slots that are busy may be written. -/
theorem steady_writeAll {bound : List Binding} (hbound : ∀ b ∈ bound, b.slot ∈ busy) :
    Steady base busy (writeAll bound) := by
  refine ⟨fun hub h => ?_, fun _ _ _ => rfl, fun _ _ _ => rfl⟩
  have hkeep : ∀ i ∉ busy, (written hub.slots bound)[i]? = hub.slots[i]? := by
    intro i hi
    refine written_getElem?_of_notMem fun hmem => ?_
    obtain ⟨b, hb, rfl⟩ := List.mem_map.1 hmem
    exact hi (hbound b hb)
  exact h.storing alike_written hkeep

/-- A match may write the slots of its command once they are busy. -/
theorem steady_matchWords {words : List String} {usage : String} (hown : base.owned id ⊆ busy) :
    Steady base busy (matchWords id words usage) := by
  refine Steady.command_bind ?_
  refine .reading_bind (f := fun hub => layOut hub.slots (base.commandAt id).arguments)
    (fun _ _ => rfl) fun hub h => ?_
  have hids : (layOut hub.slots (base.commandAt id).arguments).ids = base.owned id :=
    h.alike.ids_layOut _
  have hbound := bindsIn_ids usage [] (layOut hub.slots (base.commandAt id).arguments) words
  rw [hids] at hbound
  -- the match writes slots of the command alone, and all of these are busy
  refine (steady_writeAll fun b hb => hown (hbound b hb)).bind fun _ => ?_
  refine (Steady.forM_log _ _).bind fun _ => (Steady.conclude _).bind fun left => ?_
  have hsnapshot : ∀ paths, Steady base busy (reading (fun hub =>
      Bindings.snapshot hub.slots paths (base.commandAt id).arguments) >>= pure) := fun _ =>
    .reading_bind (fun _ _ => rfl) fun _ _ => .pure _
  dsimp only
  split
  · exact hsnapshot _
  · exact (Steady.log _ _).bind fun _ => hsnapshot _

theorem steady_suggest {word : Datum} (hn : SteadyDispatcher base nested)
    (hr : registry.Stateless) : Steady base busy (suggest nested registry word) := by
  refine .reading_bind (f := fun hub => registry.commands.filterMap (hub.commands[·]?))
    (fun _ _ => rfl) fun hub _ => ?_
  dsimp only
  split
  · exact .pure _
  · exact .throw _
  · next ask hask =>
    exact (steady_run hn (hr.suggester ask hask _ _)).bind fun _ => .conclude _

theorem steady_reportUnknown {called : String} (hn : SteadyDispatcher base nested)
    (hr : registry.Stateless) : Steady base busy (reportUnknown nested registry called) := by
  refine (Steady.log _ _).bind fun _ => (steady_trigger hn hr).bind fun _ => ?_
  refine (steady_suggest hn hr).bind fun suggestions => ?_
  split
  · exact .pure ()
  · exact steady_trigger hn hr

variable {called line : String} {words : List String} {level : Datum}

/-- **A call is steady** while the slots of its command are busy. -/
theorem steady_call (hn : SteadyDispatcher base nested) (hs : base.Stateless)
    (hown : base.owned id ⊆ busy) :
    Steady base busy (call nested registry id called words level) := by
  have hmatched : ∀ usage, Steady base busy (do
      let bindings ← matchWords id words usage
      log .registry
        ("executing " ++ Text.quoted (base.commandAt id).name ++ " with " ++ bindings.shown)
      let _ ← perform nested id (.bindings bindings)) := fun usage =>
    (steady_matchWords hown).bind fun _ => (Steady.log _ _).bind fun _ =>
      (steady_perform hn hs).bind fun _ => .pure ()
  have hadmitted : Steady base busy (do
      pass nested id
      let g ← reading fun hub => layOut hub.slots (base.commandAt id).arguments
      let bindings ← matchWords id words
        ((base.commandAt id).usage g (Text.lowered called) registry.marker)
      log .registry
        ("executing " ++ Text.quoted (base.commandAt id).name ++ " with " ++ bindings.shown)
      let _ ← perform nested id (.bindings bindings)) :=
    (steady_pass hn hs).bind fun _ =>
      .reading_bind (fun _ _ => rfl) fun _ _ => hmatched _
  refine Steady.command_bind ((Steady.conclude _).bind fun isDenied => ?_)
  dsimp only
  split
  · -- who is denied access gets no further
    exact (Steady.throw _).bind fun _ => hadmitted
  · exact hadmitted

theorem steady_settle {ended : Except Failure Unit} (hn : SteadyDispatcher base nested)
    (hr : registry.Stateless) : Steady base busy (settle nested registry line ended) := by
  unfold settle
  split
  · exact (Steady.log _ _).bind fun _ => steady_trigger hn hr
  · exact .conclude _

/-! ## Serving a line -/

/-- What a call and the report of its fault leave, before the reset. -/
def reported (nested : Dispatcher) (registry : Registry) (id : CommandId) (line called : String)
    (words : List String) (level : Datum) : HubM (Except Failure Unit) := do
  let ended ← attempt (call nested registry id called words level)
  attempt (settle nested registry line ended)

/-- Serving a line is making the call, reporting and resetting. -/
theorem serve_eq (nested : Dispatcher) (registry : Registry) (id : CommandId)
    (line called : String) (words : List String) (level : Datum) :
    serve nested registry id line called words level = (do
      let settled ← reported nested registry id line called words level
      resetCommand id
      conclude settled) := by
  rw [serve, reported, bind_assoc]

/-- A report always comes about. -/
theorem ended_reported (nested : Dispatcher) (registry : Registry) (id : CommandId)
    (line called : String) (words : List String) (level : Datum) (hub : Hub) :
    ∃ settled, (reported nested registry id line called words level).ended hub = .ok settled := by
  rw [reported, ended_bind, ended_attempt]
  exact ⟨_, ended_attempt _ _⟩

/-- The hub after the slots of a command were reset. -/
theorem after_resetCommand (id : CommandId) (hub : Hub) :
    (resetCommand id).after hub = hub.storing
      ((layOut hub.slots (hub.commandAt id).arguments).resetIn hub.slots) := rfl

/-- Reporting is steady while the slots of the command are busy. -/
theorem steady_reported (hn : SteadyDispatcher base nested) (hs : base.Stateless)
    (hr : registry.Stateless) (hown : base.owned id ⊆ busy) :
    Steady base busy (reported nested registry id line called words level) :=
  (steady_call hn hs hown).attempt.bind fun _ => (steady_settle hn hr).attempt

/-- Serving a line leaves what the report left, with the slots of the command
reset. -/
theorem after_serve (hub : Hub) :
    (serve nested registry id line called words level).after hub =
      (resetCommand id).after
        ((reported nested registry id line called words level).after hub) := by
  obtain ⟨settled, hsettled⟩ := ended_reported nested registry id line called words level hub
  rw [serve_eq, after_bind, hsettled]
  dsimp only
  cases settled <;> rfl

/-- It ends as was reported. -/
theorem ended_serve (hub : Hub) :
    (serve nested registry id line called words level).ended hub =
      (reported nested registry id line called words level).ended hub >>= fun settled => settled := by
  obtain ⟨settled, hsettled⟩ := ended_reported nested registry id line called words level hub
  rw [serve_eq, ended_bind, hsettled]
  dsimp only
  cases settled <;> rfl

/-- **Serving a line is steady**: while it lasts the slots of its command are busy,
and in the end they are reset. -/
theorem steady_serve (hn : SteadyDispatcher base nested) (hs : base.Stateless)
    (hr : registry.Stateless) (hid : base.Registered id) :
    Steady base busy (serve nested registry id line called words level) := by
  have hsteady : Steady base (base.owned id ++ busy)
      (reported nested registry id line called words level) :=
    steady_reported hn hs hr (List.subset_append_left _ _)
  -- a hub that has not strayed before the call has not strayed for the call either
  have hmono : ∀ hub, base.Settled busy hub → base.Settled (base.owned id ++ busy) hub :=
    fun hub h => h.mono (List.subset_append_right _ _)
  constructor
  · intro hub h
    rw [after_serve, after_resetCommand]
    exact (hsteady.keeps hub (hmono hub h)).reset hid
  · intro hub earlier h
    rw [ended_serve, ended_serve, hsteady.ends hub earlier (hmono hub h)]
  · intro hub earlier h
    rw [after_serve, after_serve, hsteady.leaves hub earlier (hmono hub h)]
    rfl

/-- A command that a program finds in a registry is registered. -/
theorem registered_of_mem {r : RegistryId} (h : id ∈ (base.registryAt r).commands) :
    base.Registered id := by
  cases hr : base.registries[r]? with
  | some registry =>
    rw [Hub.registryAt, hr] at h
    exact ⟨registry, List.mem_of_getElem? hr, h⟩
  | none =>
    rw [Hub.registryAt, hr] at h
    cases h

/-- What a name calls in a registry is one of its commands. -/
theorem mem_of_position {commands : List Signature}
    (h : (Registry.position? called commands).bind (registry.commands[·]?) = some id) :
    id ∈ registry.commands := by
  obtain ⟨position, -, hget⟩ := Option.bind_eq_some_iff.1 h
  exact List.mem_of_getElem? hget

/-- **Handling a line is steady** if the lines dispatched from within are. -/
theorem steady_parseWith (hn : SteadyDispatcher base nested) (hs : base.Stateless) :
    SteadyDispatcher base (parseWith nested) := by
  intro busy r line level
  refine Steady.registry_bind ?_
  have hr := hs.registryAt r
  dsimp only
  split
  · exact .pure false
  · split
    · exact .pure false
    · next called words _ =>
      refine .reading_bind (f := fun hub => (Registry.position? called
        (((base.registryAt r).commands.filterMap (hub.commands[·]?)).map
          (·.toSignature))).bind ((base.registryAt r).commands[·]?)) (fun _ _ => rfl) fun hub _ => ?_
      split
      · exact (steady_reportUnknown hn hr).bind fun _ => .pure true
      · next id hfound =>
        have hid := registered_of_mem (mem_of_position hfound)
        exact (steady_serve hn hs hr hid).bind fun _ => .pure true

/-- So it is at any depth. -/
theorem steady_parseWithin (hs : base.Stateless) (depth : Nat) :
    SteadyDispatcher base (parseWithin depth) := by
  induction depth with
  | zero => exact fun _ _ _ _ => .throw _
  | succ depth ih => exact steady_parseWith ih hs

/-- **Dispatching a line is steady.** -/
theorem steady_parse (hs : base.Stateless) : SteadyDispatcher base parse :=
  steady_parseWithin hs nestingLimit

end HubM

end Chatline
