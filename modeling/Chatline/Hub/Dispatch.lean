import Chatline.Hub.Builder
import Chatline.Token
/-!
# Dispatching a line

One line passes the marker, the tokens, the alias, the access level, the
precondition and the match, and then reaches the action. A fault on the way is
reported once. Whatever happened, the slots of the command that was
called have their fallbacks again afterwards.

A callback may itself dispatch lines. `parseWith` serves such requests by the
dispatcher it is given; `parseWithin` ties the knot for a given depth.
-/

namespace Chatline

/-- How a line that a callback dispatches is handled: by a registry, for a
caller of a level. -/
abbrev Dispatcher := RegistryId → String → Datum → HubM Bool

namespace Routine

/-- Runs a routine; `nested` serves the lines that it dispatches. -/
def run {α : Type} (nested : Dispatcher) : Routine α → HubM α
  | done value => pure value
  | fail failure => throw failure
  | note n next => do
    HubM.record (.note n)
    run nested next
  | look next => do
    let hub ← get
    run nested (next hub.toScene)
  | draw counter next => do
    let count ← HubM.draw counter
    run nested (next count)
  | dispatch registry line level next => do
    let result ← HubM.attempt (nested registry line level)
    run nested (next result)

end Routine

namespace HubM

/-- Puts a fault on the console. -/
def printFault (fault : Fault) : HubM Unit := do
  let report ← conclude (Failure.ofMismatch (fault.report (← get).theme))
  record (.console fault report)

/-- Hands a fault to the sink. Without one the fault goes to the console, unless
its detail `sink` is something that stands where a sink should and cannot be
called. -/
def deliver (nested : Dispatcher) (sink : Option Sink) (fault : Fault) : HubM Unit :=
  match sink with
  | some sink => do let _ ← (sink fault).run nested
  | none =>
    match fault.option? "sink" with
    | none | some (.datum .null) | some (.datum .unset) => printFault fault
    | some detail => mismatch (.notCallable detail.typeName)

/-- Reports a fault as a registry asks for it. -/
def trigger (nested : Dispatcher) (registry : Registry) (fault : Fault) : HubM Unit :=
  deliver nested registry.sink (fault.withOptions registry.faultOptions)

/-- Asks the precondition of a command for a reason why it may not run. -/
def check (nested : Dispatcher) (id : CommandId) : HubM (Option Datum) := do
  let command ← HubM.command id
  match command.precondition with
  | none => return none
  | some precondition =>
    let reason ← (precondition command.toSignature).run nested
    return if reason.truthy then some reason else none

/-- Asks the precondition of a command and fails if there is a reason why it
may not run. -/
def pass (nested : Dispatcher) (id : CommandId) : HubM Unit := do
  match ← check nested id with
  | none => return
  | some reason =>
    let command ← HubM.command id
    throw (.fault (← conclude (Registry.refused command.toSignature reason)))

/-- Runs the action of a command on a subject. -/
def perform (nested : Dispatcher) (id : CommandId) (subject : Subject) : HubM Datum := do
  let command ← HubM.command id
  match command.action with
  | none => throw (.build (.noAction command.name))
  | some action => (action subject).run nested

/-- Runs a command on a subject; `checked` tells that its precondition was asked
already. -/
def execute (nested : Dispatcher) (id : CommandId) (subject : Subject) (checked : Bool) :
    HubM Datum := do
  unless checked do pass nested id
  perform nested id subject

/-- Gives the slots of a match their values. -/
def writeAll (bound : List Binding) : HubM Unit :=
  modify fun hub => { hub with
    slots := bound.foldl
      (fun store binding => store.modify binding.slot ({ · with value := binding.value }))
      hub.slots }

/-- Keeps what a match of words against the grammar of a command gave. The slots
keep the values they are given, also when the match failed. Words that it was
not given are `unread`, in unambiguous form. -/
def keepMatch (command : Command) (outcome : Outcome) (unread : List String) :
    HubM Bindings := do
  writeAll outcome.bound
  outcome.remarks.forM (log .matcher)
  let left := (← conclude outcome.result).map Text.quoted ++ unread
  unless left.isEmpty do
    log .matcher
      ("ignoring " ++ toString left.length ++ " unmatched token(s) for " ++
        Text.quoted command.name ++ ": " ++ Text.bracketed left)
  return Bindings.snapshot (← get).slots (outcome.bound.map fun b => (b.path, b.slot))
    command.arguments

/-- Matches words against the grammar of a command; faults name the usage
line. -/
def matchWords (id : CommandId) (words : List String) (usage : String) : HubM Bindings := do
  let command ← HubM.command id
  let grammar ← HubM.grammar command.arguments
  keepMatch command (grammar.walk usage [] words) []

/-- The first command of a registry that has an alias, up to letter case. -/
def resolve (registry : Registry) (called : String) : HubM (Option CommandId) := do
  let commands ← commandsOf registry
  return (Registry.position? called (commands.map (·.toSignature))).bind (registry.commands[·]?)

/-- What the suggester of a registry names for a word. The built-in one wants a
text. -/
def suggest (nested : Dispatcher) (registry : Registry) (word : Datum) : HubM (List Datum) := do
  let commands := (← commandsOf registry).map (·.toSignature)
  match registry.suggester, word with
  | .affix, .text word => return (Affix.suggest word commands).map .text
  | .affix, word => mismatch (.noAttribute word.typeName "lower")
  | .custom ask, word => conclude (Failure.ofMismatch (← (ask word commands).run nested).items?)

/-- Reports a word that calls no command, and then the aliases that may have
been meant. -/
def reportUnknown (nested : Dispatcher) (registry : Registry) (called : String) : HubM Unit := do
  log .registry ("no command for alias " ++ Text.quoted called)
  trigger nested registry (Registry.notFound called)
  let suggestions ← suggest nested registry (.text called)
  unless suggestions.isEmpty do
    trigger nested registry (Registry.didYouMean called suggestions)

/-- Takes a call from the access level of its command to the action. -/
def call (nested : Dispatcher) (registry : Registry) (id : CommandId) (called : String)
    (words : List String) (level : Datum) : HubM Unit := do
  let command ← HubM.command id
  if ← conclude (Failure.ofMismatch (Registry.isDenied command.toSignature level)) then
    throw (.fault (Registry.denied command.toSignature level))
  pass nested id
  let usage := command.usage (← grammar command.arguments) (Text.lowered called) registry.marker
  let bindings ← matchWords id words usage
  log .registry ("executing " ++ Text.quoted command.name ++ " with " ++ bindings.shown)
  let _ ← perform nested id (.bindings bindings)

/-- Reports the fault that a call of `line` ended with, if it did. -/
def settle (nested : Dispatcher) (registry : Registry) (line : String) :
    Except Failure Unit → HubM Unit
  | .error (.fault fault) => do
    log .registry ("parse of " ++ Text.quoted line ++ " failed: " ++ fault.message)
    trigger nested registry fault
  | ended => conclude ended

/-- Makes the call that `line` is, and gives the slots of the command their
fallbacks again whatever happens. -/
def serve (nested : Dispatcher) (registry : Registry) (id : CommandId) (line called : String)
    (words : List String) (level : Datum) : HubM Unit := do
  let ended ← attempt (call nested registry id called words level)
  let settled ← attempt (settle nested registry line ended)
  resetCommand id
  conclude settled

/-- Handles one line for a caller of a level. The result is false when the line
is not taken for a call, and true otherwise. -/
def parseWith (nested : Dispatcher) : Dispatcher := fun id line level => do
  let registry ← HubM.registry id
  match registry.callIn? line with
  | none => return false
  | some line =>
    match Token.tokenize line with
    | [] => return false
    | called :: words =>
      match ← resolve registry called with
      | none => reportUnknown nested registry called
      | some found => serve nested registry found line called words level
      return true

/-- Handles one line, in which lines may be dispatched from within lines to a
given depth. -/
def parseWithin : Nat → Dispatcher
  | 0 => fun _ _ _ => throw .nestedTooDeep
  | depth + 1 => parseWith (parseWithin depth)

/-- How deep lines may be dispatched from within lines. -/
def nestingLimit : Nat := 1000

/-- Handles one line for a caller of a level. -/
def parse : Dispatcher := parseWithin nestingLimit

end HubM

end Chatline
