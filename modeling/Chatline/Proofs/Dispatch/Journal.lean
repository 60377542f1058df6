import Chatline.Proofs.Hub.Steady
/-!
# Journals of dispatched lines

What the hub has observed does not tell which callbacks ran, so this is written down
beside it. A journalled program is a program on the hub with the entries that it makes
in a journal: one for each command that is called, each callback that runs, with how it
ended, each match and each fault that is handed over. What the lines do that a callback
dispatches is entered too, marked as being from within.

Each part of the dispatcher is journalled here, and running the journalled part is
running the part (`run_parseWithin`): the journal is kept, and nothing else is changed.
-/

namespace Chatline

/-- **An entry of a journal.** -/
inductive Entry where
  /-- A line calls a command. -/
  | called (id : CommandId)
  /-- The precondition of a command was asked. -/
  | asked (id : CommandId) (answer : Except Failure Datum)
  /-- Words were matched against the grammar of a command. -/
  | matched (id : CommandId) (words : List String) (outcome : Except Failure Bindings)
  /-- The action of a command was run on a subject. -/
  | acted (id : CommandId) (subject : Subject) (answer : Except Failure Datum)
  /-- The suggester of the host was asked about a word. -/
  | suggested (word : Datum) (answer : Except Failure Datum)
  /-- A fault was handed to a sink, or put on the console. -/
  | delivered (toSink : Bool) (fault : Fault) (outcome : Except Failure Unit)
  /-- An entry of a line that a callback dispatched. -/
  | within (entry : Entry)

/-- **A journalled program**: a program on the hub and the entries that it makes where
it starts on a hub. -/
structure Journalled (α : Type) where
  /-- The program. -/
  run : HubM α
  /-- What it enters. -/
  entries : Hub → List Entry

namespace Journalled

variable {α β : Type}

/-- A program that enters nothing. -/
def quietly (program : HubM α) : Journalled α := ⟨program, fun _ => []⟩

instance : Monad Journalled where
  pure a := quietly (pure a)
  bind p k :=
    { run := p.run >>= fun a => (k a).run
      entries := fun hub =>
        p.entries hub ++
          match p.run.ended hub with
          | .ok a => (k a).entries (p.run.after hub)
          | .error _ => [] }

instance : MonadLift HubM Journalled := ⟨quietly⟩

/-- Runs a program and gives back how it ended. -/
def attempt (p : Journalled α) : Journalled (Except Failure α) := ⟨HubM.attempt p.run, p.entries⟩

/-- Runs a callback and makes an entry of how it ended. What the callback entered, it
did by the lines that it dispatched. -/
def enter (entry : Except Failure α → Entry) (callback : Journalled α) : Journalled α where
  run := callback.run
  entries hub := (callback.entries hub).map .within ++ [entry (callback.run.ended hub)]

/-- Makes an entry. -/
def note (entry : Entry) : Journalled Unit := ⟨pure (), fun _ => [entry]⟩

/-- How a line that a callback dispatches is handled, with a journal. -/
abbrev Dispatcher := RegistryId → String → Datum → Journalled Bool

/-- The dispatcher without its journal. -/
def plain (nested : Dispatcher) : Chatline.Dispatcher :=
  fun registry line level => (nested registry line level).run

/-! ## The dispatcher, journalled -/

/-- Runs a routine; `nested` serves the lines that it dispatches. -/
def routine (nested : Dispatcher) : Routine α → Journalled α
  | .done value => pure value
  | .fail failure => quietly (throw failure)
  | .note n next => do
    HubM.record (.note n)
    routine nested next
  | .look next => do
    let hub ← quietly get
    routine nested (next hub.toScene)
  | .draw counter next => do
    let count ← HubM.draw counter
    routine nested (next count)
  | .dispatch registry line level next => do
    let result ← attempt (nested registry line level)
    routine nested (next result)

/-- Hands a fault to the sink or puts it on the console, and enters that. -/
def deliver (nested : Dispatcher) (sink : Option Sink) (fault : Fault) : Journalled Unit :=
  enter (.delivered sink.isSome fault) <|
    match sink with
    | some sink => do let _ ← routine nested (sink fault)
    | none => HubM.deliver (plain nested) none fault

/-- Reports a fault as a registry asks for it. -/
def trigger (nested : Dispatcher) (registry : Registry) (fault : Fault) : Journalled Unit :=
  deliver nested registry.sink (fault.withOptions registry.faultOptions)

/-- Asks the precondition of a command, and enters its answer. -/
def check (nested : Dispatcher) (id : CommandId) : Journalled (Option Datum) := do
  let command ← HubM.command id
  match command.precondition with
  | none => return none
  | some precondition =>
    let reason ← enter (.asked id) (routine nested (precondition command.toSignature))
    return if reason.truthy then some reason else none

/-- Asks the precondition of a command and fails if there is a reason why it may not
run. -/
def pass (nested : Dispatcher) (id : CommandId) : Journalled Unit := do
  match ← check nested id with
  | none => return
  | some reason =>
    let command ← HubM.command id
    let refused ← HubM.conclude (Registry.refused command.toSignature reason)
    quietly (throw (.fault refused))

/-- Runs the action of a command on a subject, and enters that. -/
def perform (nested : Dispatcher) (id : CommandId) (subject : Subject) : Journalled Datum := do
  let command ← HubM.command id
  match command.action with
  | none => quietly (throw (.build (.noAction command.name)))
  | some action => enter (.acted id subject) (routine nested (action subject))

/-- Matches words against the grammar of a command, and enters the outcome. -/
def matchWords (id : CommandId) (words : List String) (usage : String) : Journalled Bindings :=
  enter (.matched id words) (quietly (HubM.matchWords id words usage))

/-- What the suggester of a registry names for a word. A suggester of the host's is
entered. -/
def suggest (nested : Dispatcher) (registry : Registry) (word : Datum) :
    Journalled (List Datum) := do
  match registry.suggester with
  | .affix => HubM.suggest (plain nested) registry word
  | .custom ask =>
    let commands ← HubM.commandsOf registry
    let answer ← enter (.suggested word) (routine nested (ask word (commands.map (·.toSignature))))
    HubM.conclude (Failure.ofMismatch answer.items?)

/-- Reports a word that calls no command, and then the aliases that may have been
meant. -/
def reportUnknown (nested : Dispatcher) (registry : Registry) (called : String) :
    Journalled Unit := do
  HubM.log .registry ("no command for alias " ++ Text.quoted called)
  trigger nested registry (Registry.notFound called)
  let suggestions ← suggest nested registry (.text called)
  unless suggestions.isEmpty do
    trigger nested registry (Registry.didYouMean called suggestions)

/-- Takes a call from the access level of its command to the action. -/
def call (nested : Dispatcher) (registry : Registry) (id : CommandId) (called : String)
    (words : List String) (level : Datum) : Journalled Unit := do
  let command ← HubM.command id
  if ← HubM.conclude (Failure.ofMismatch (Registry.isDenied command.toSignature level)) then
    quietly (throw (.fault (Registry.denied command.toSignature level)))
  pass nested id
  let grammar ← HubM.grammar command.arguments
  let usage := command.usage grammar (Text.lowered called) registry.marker
  let bindings ← matchWords id words usage
  HubM.log .registry ("executing " ++ Text.quoted command.name ++ " with " ++ bindings.shown)
  let _ ← perform nested id (.bindings bindings)

/-- Reports the fault that a call of `line` ended with, if it did. -/
def settle (nested : Dispatcher) (registry : Registry) (line : String) :
    Except Failure Unit → Journalled Unit
  | .error (.fault fault) => do
    HubM.log .registry ("parse of " ++ Text.quoted line ++ " failed: " ++ fault.message)
    trigger nested registry fault
  | ended => HubM.conclude ended

/-- Makes a call and reports the fault that it ended with. -/
def reported (nested : Dispatcher) (registry : Registry) (id : CommandId) (line called : String)
    (words : List String) (level : Datum) : Journalled (Except Failure Unit) := do
  let ended ← attempt (call nested registry id called words level)
  attempt (settle nested registry line ended)

/-- Makes the call that `line` is, and gives the slots of the command their fallbacks
again whatever happens. The call is entered first. -/
def serve (nested : Dispatcher) (registry : Registry) (id : CommandId) (line called : String)
    (words : List String) (level : Datum) : Journalled Unit := do
  note (.called id)
  let settled ← reported nested registry id line called words level
  HubM.resetCommand id
  HubM.conclude settled

/-- Handles one line for a caller of a level. -/
def parseWith (nested : Dispatcher) : Dispatcher := fun id line level => do
  let registry ← HubM.registry id
  match registry.callIn? line with
  | none => return false
  | some line =>
    match Token.tokenize line with
    | [] => return false
    | called :: words =>
      match ← HubM.resolve registry called with
      | none => reportUnknown nested registry called
      | some found => serve nested registry found line called words level
      return true

/-- Handles one line, in which lines may be dispatched from within lines to a given
depth. -/
def parseWithin : Nat → Dispatcher
  | 0 => fun _ _ _ => quietly (throw .nestedTooDeep)
  | depth + 1 => parseWith (parseWithin depth)

/-! ## The journal changes nothing -/

section Running

variable {p : Journalled α} {k : α → Journalled β} {nested : Dispatcher} {registry : Registry}
variable {id : CommandId} {line called : String} {words : List String} {level : Datum}

@[simp] theorem run_bind : (p >>= k).run = p.run >>= fun a => (k a).run := rfl

/-- What one step after the other enters. -/
theorem entries_bind (hub : Hub) :
    (p >>= k).entries hub =
      p.entries hub ++
        match p.run.ended hub with
        | .ok a => (k a).entries (p.run.after hub)
        | .error _ => [] := rfl

/-- A callback enters what its lines enter, and how it ended. -/
theorem entries_enter (entry : Except Failure α → Entry) (hub : Hub) :
    (enter entry p).entries hub =
      (p.entries hub).map .within ++ [entry (p.run.ended hub)] := rfl

@[simp] theorem run_quietly (program : HubM α) : (quietly program).run = program := rfl

@[simp] theorem run_monadLift (program : HubM α) :
    (monadLift program : Journalled α).run = program := rfl

@[simp] theorem run_attempt : (attempt p).run = HubM.attempt p.run := rfl

@[simp] theorem run_enter (entry : Except Failure α → Entry) : (enter entry p).run = p.run := rfl

/-- **A journalled routine** runs like the routine. -/
theorem run_routine (r : Routine α) : (routine nested r).run = r.run (plain nested) := by
  -- on both sides each request is followed by the rest of the routine
  induction r with
  | done value => rfl
  | fail failure => rfl
  | note n next ih => exact bind_congr fun _ => ih
  | look next ih => exact bind_congr fun hub => ih hub.toScene
  | draw counter next ih => exact bind_congr ih
  | dispatch registry line level next ih => exact bind_congr ih

theorem run_deliver (sink : Option Sink) (fault : Fault) :
    (deliver nested sink fault).run = HubM.deliver (plain nested) sink fault := by
  cases sink with
  | none => rfl
  | some sink =>
    rw [deliver, run_enter, run_bind, run_routine]
    rfl

theorem run_trigger (fault : Fault) :
    (trigger nested registry fault).run = HubM.trigger (plain nested) registry fault :=
  run_deliver _ _

theorem run_check : (check nested id).run = HubM.check (plain nested) id := by
  refine bind_congr fun command => ?_
  dsimp only
  cases command.precondition with
  | none => rfl
  | some precondition =>
    rw [run_bind, run_enter, run_routine]
    rfl

theorem run_pass : (pass nested id).run = HubM.pass (plain nested) id := by
  rw [pass, HubM.pass, run_bind, run_check]
  refine bind_congr fun reason => ?_
  cases reason <;> rfl

theorem run_perform (subject : Subject) :
    (perform nested id subject).run = HubM.perform (plain nested) id subject := by
  refine bind_congr fun command => ?_
  dsimp only
  cases command.action with
  | none => rfl
  | some action => rw [run_enter, run_routine]

theorem run_suggest (word : Datum) :
    (suggest nested registry word).run = HubM.suggest (plain nested) registry word := by
  rw [suggest]
  cases hs : registry.suggester with
  | affix => rfl
  | custom ask =>
    rw [HubM.suggest]
    refine bind_congr fun commands => ?_
    rw [hs, run_bind, run_enter, run_routine]
    rfl

theorem run_reportUnknown :
    (reportUnknown nested registry called).run =
      HubM.reportUnknown (plain nested) registry called := by
  refine bind_congr fun _ => ?_
  rw [run_bind, run_trigger]
  refine bind_congr fun _ => ?_
  rw [run_bind, run_suggest]
  refine bind_congr fun suggestions => ?_
  split
  · rfl
  · exact run_trigger _

theorem run_call :
    (call nested registry id called words level).run =
      HubM.call (plain nested) registry id called words level := by
  refine bind_congr fun command => bind_congr fun isDenied => ?_
  cases isDenied with
  | true => rfl
  | false =>
    show (pass nested id >>= _).run = _
    rw [run_bind, run_pass]
    refine bind_congr fun _ => bind_congr fun grammar => bind_congr fun bindings =>
      bind_congr fun _ => ?_
    rw [run_bind, run_perform]
    rfl

theorem run_settle (ended : Except Failure Unit) :
    (settle nested registry line ended).run = HubM.settle (plain nested) registry line ended := by
  cases ended with
  | ok _ => rfl
  | error failure =>
    cases failure with
    | fault fault => exact bind_congr fun _ => run_trigger _
    | _ => rfl

theorem run_reported :
    (reported nested registry id line called words level).run =
      HubM.reported (plain nested) registry id line called words level := by
  rw [reported, run_bind, run_attempt, run_call]
  refine bind_congr fun ended => ?_
  rw [run_attempt, run_settle]

theorem run_serve :
    (serve nested registry id line called words level).run =
      HubM.serve (plain nested) registry id line called words level := by
  rw [HubM.serve_eq, ← run_reported]
  rfl

/-- **Serving a line** enters the call and then what the call and its report enter. -/
theorem entries_serve (hub : Hub) :
    (serve nested registry id line called words level).entries hub =
      .called id :: (reported nested registry id line called words level).entries hub := by
  have hserve : (serve nested registry id line called words level).entries hub =
      .called id :: (reported nested registry id line called words level >>= fun settled =>
        quietly (HubM.resetCommand id) >>= fun _ => quietly (HubM.conclude settled)).entries hub :=
    rfl
  rw [hserve, entries_bind]
  -- neither the reset nor the end enters anything
  cases (reported nested registry id line called words level).run.ended hub with
  | ok settled => exact congrArg (Entry.called id :: ·) (List.append_nil _)
  | error failure => exact congrArg (Entry.called id :: ·) (List.append_nil _)

theorem plain_parseWith : plain (parseWith nested) = HubM.parseWith (plain nested) := by
  funext registry line level
  refine bind_congr fun registry => ?_
  dsimp only
  cases registry.callIn? line with
  | none => rfl
  | some line =>
    dsimp only
    cases Token.tokenize line with
    | nil => rfl
    | cons called words =>
      refine bind_congr fun found => ?_
      cases found with
      | none =>
        show (reportUnknown nested registry called >>= _).run = _
        rw [run_bind, run_reportUnknown]
        rfl
      | some id =>
        show (serve nested registry id line called words level >>= _).run = _
        rw [run_bind, run_serve]
        rfl

/-- **A journalled dispatcher** handles lines like the dispatcher. -/
theorem plain_parseWithin (depth : Nat) : plain (parseWithin depth) = HubM.parseWithin depth := by
  induction depth with
  | zero => rfl
  | succ depth ih => rw [parseWithin, plain_parseWith, ih]; rfl

end Running

end Journalled

end Chatline
