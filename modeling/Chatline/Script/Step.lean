import Chatline.Script.Call
import Chatline.Script.Words
/-!
# Scripts

A script is a list of steps on one hub: building objects, calling methods on
them, dispatching lines and looking at the outcome. A step that fails does not
stop the script. Names stand for objects and not for copies of them.
-/

namespace Chatline.Script

/-- What a step does. -/
inductive Request where
  /-- Builds an argument. -/
  | argument (blueprint : Blueprint)
  /-- Builds the arguments of a grammar in bracket notation, and names them. -/
  | infer (text : Datum) (names : List String)
  /-- Builds a command. -/
  | command (sketch : CommandSketch)
  /-- Builds a command around its action, and registers it if a registry is
  named. -/
  | decorate (sketch : CommandSketch) (registry : Option String)
  /-- Builds a registry. -/
  | registry (sketch : RegistrySketch)
  /-- Calls the method of a name with operands by position and by name. -/
  | call (on method : String) (operands : List Term) (named : List (String × Term))
  /-- Dispatches a line for a caller of a level. -/
  | parse (on : String) (line : Datum) (level : Datum)
  /-- Matches words against the grammar of a command. -/
  | matchWords (on : String) (words called marker : Datum) (keys : List Datum)
  /-- Makes bindings of some arguments at some paths, over a grammar. -/
  | bindings (bound : List (Datum × Blueprint)) (grammar : Blueprints) (keys : List Datum)
  /-- Looks up keys in bindings. -/
  | get (on : String) (keys : List Datum)
  /-- The unambiguous form of an object. -/
  | shown (on : String)
  /-- The fields of an object. -/
  | fields (on : String)
  /-- The portrait of an object. -/
  | portrait (on : String)

/-- A step of a script. -/
structure Step where
  /-- What the step does. -/
  request : Request
  /-- The name that its object gets if it succeeds. -/
  as? : Option String := none

/-- What a step gives, with what was observed during it. -/
structure StepResult where
  /-- The answer, or why there is none. -/
  answer : Except Failure Answer
  /-- What was observed, in order. -/
  events : List Event
  /-- What goes by the name that a method was called on, as it is afterwards. -/
  state : Option Answer

end Chatline.Script

namespace Chatline.HubM

open Script

/-- The answer to a call on an object, and what it gave. -/
def answerTo (on given : Handle) : HubM (Answer × Handle) := do
  if on.isSame given then return (.itself, on) else return (← answerOf given, given)

/-- The answer that shows an object as it is, and the object. -/
def portraitOf (handle : Handle) : HubM (Answer × Handle) := do
  match ← portrait? handle with
  | some p => return (.portrait p, handle)
  | none => return (.datum .null, handle)

/-- The answer that shows bindings with some look-ups, and the bindings. -/
def viewOf (b : Bindings) (keys : List Datum) : HubM (Answer × Handle) := do
  return (.bindings (b.view (← get).slots keys), .bindings b)

/-- The slot that is bound at a path, which must have no part that can change. -/
def boundSlot (path : List Datum) (operand : Handle) : HubM SlotId := do
  let id ← require (.noAttribute operand.typeName "value") operand.slot?
  match Datum.changeableAmong? path with
  | some type => mismatch (.unhashable type)
  | none => return id

/-- The slot that stands in a grammar. -/
def rootSlot (operand : Handle) : HubM SlotId :=
  let field := if operand.command?.isSome then "value" else "name"
  require (.noAttribute operand.typeName field) operand.slot?

/-- The slot whose portrait is wanted. -/
def drawnSlot (operand : Handle) : HubM SlotId :=
  let field := if operand.command?.isSome then "optional" else "name"
  require (.noAttribute operand.typeName field) operand.slot?

/-- The names of a path. Bindings with a path of anything else cannot be shown. -/
def namesOf (path : List Datum) : HubM Path :=
  match Bindings.pathOf? path, unjoinable path with
  | some names, _ => return names
  | none, some m => mismatch m
  | none, none => return []

/-- The command that a handle is, or the complaint that it has no aliases. -/
def commandOf : Handle → HubM CommandId
  | .command id => return id
  | handle => mismatch (.noAttribute handle.typeName "aliases")

/-- The registry that a handle is, or the complaint that it lacks a field. -/
def registryOf (field : String) : Handle → HubM RegistryId
  | .registry id => return id
  | handle => mismatch (.noAttribute handle.typeName field)

/-- Does what is requested: the answer and the object that it gave. -/
def fulfil : Request → HubM (Answer × Handle)
  | .argument blueprint => do
    let operand ← draft blueprint
    portraitOf (.slot (← drawnSlot operand))
  | .infer text names => do
    let text ← require .bracketText text.text?
    let ids ← infer text
    (names.zip ids).forM fun (name, id) => HubM.name name (.slot id)
    return (.siblings (← grammar ids), .list (ids.map .slot))
  | .command sketch => do portraitOf (.command (← construct sketch))
  | .decorate sketch none => do portraitOf (.command (← decorate sketch))
  | .decorate sketch (some registry) => do
    let registry ← registryOf "command" (← find registry)
    let id ← decorate sketch
    register registry id
    portraitOf (.command id)
  | .registry sketch => do portraitOf (.registry (← establish sketch))
  | .call on method operands named => do
    let on ← find on
    let operands ← evaluateAll operands
    let values ← evaluateAll (named.map (·.2))
    let method ← require (.noAttribute on.typeName method) (Method.ofName? method)
    answerTo on (← callOn on method ⟨operands, (named.map (·.1)).zip values⟩)
  | .parse on line level => do
    let id ← registryOf "parse" (← find on)
    let line ← require .dispatchedLine line.text?
    let taken := Datum.bool (← parse id line level)
    return (.datum taken, .datum taken)
  | .matchWords on words called marker keys => do
    let on ← find on
    let words ← conclude (Failure.ofMismatch words.items?)
    let id ← commandOf on
    let usage ← usageOf (← HubM.command id) (.datum called) (.datum marker)
    viewOf (← matchData id words (← display usage)) keys
  | .bindings bound grammar keys => do
    let drafts ← draftAll (bound.map (·.2))
    let roots ← draftEach grammar
    let paths ← bound.mapM fun (path, _) => conclude (Failure.ofMismatch path.items?)
    let ids ← (paths.zip drafts).mapM fun (path, operand) => boundSlot path operand
    let roots ← roots.mapM rootSlot
    let paths ← paths.mapM namesOf
    viewOf (Bindings.snapshot (← get).slots (paths.zip ids) roots) keys
  | .get on keys => do
    match ← find on with
    | .bindings b => viewOf b keys
    | handle => do mismatch (notBindings (← subjectOf handle))
  | .shown on => do
    let on ← find on
    return (.datum (.text (← shown on)), on)
  | .fields on => do
    let on ← find on
    return (.fields (← fieldsOf on), on)
  | .portrait on => do portraitOf (← find on)

/-- Does a step and names its object. -/
def performStep (step : Step) : HubM Answer := do
  let (answer, object) ← fulfil step.request
  if let some as := step.as? then HubM.name as object
  return answer

end Chatline.HubM

namespace Chatline.Script

/-- What goes by the name that a step calls a method on. -/
def Step.receiver? (step : Step) (hub : Hub) : Option Handle :=
  match step.request with
  | .call on .. => Ledger.value? on hub.names
  | _ => none

/-- The answer that shows an object of a hub as it is. -/
def portraitIn (hub : Hub) (handle : Handle) : Option Answer :=
  match (HubM.portraitOf handle).run hub with
  | .ok (answer, _) _ => some answer
  | .error _ _ => none

/-- The result of a step that ended so. -/
def Step.result (step : Step) : EStateM.Result Failure Hub Answer → StepResult × Hub
  | .ok answer after =>
    (⟨.ok answer, after.events, (step.receiver? after).bind (portraitIn after)⟩, after)
  | .error failure after =>
    (⟨.error failure, after.events, (step.receiver? after).bind (portraitIn after)⟩, after)

/-- Runs one step: its result and the hub after it. -/
def Step.run (step : Step) (hub : Hub) : StepResult × Hub :=
  step.result ((HubM.performStep step).run { hub with events := [] })

/-- Runs steps one after the other on a hub. -/
def runFrom (hub : Hub) : List Step → List StepResult
  | [] => []
  | step :: steps =>
    let (result, after) := step.run hub
    result :: runFrom after steps

/-- Runs a script. -/
def run (steps : List Step) : List StepResult := runFrom {} steps

end Chatline.Script
