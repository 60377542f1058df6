import Chatline.Script.Operand
/-!
# Building commands and registries

A command or registry is built from its sketch in one go; it is kept only if
nothing about it was refused. The parts are looked at in a fixed order, and the
first that is refused is the one that is reported.
-/

namespace Chatline.HubM

open Script

/-- The command with one more alias, if the operand is a text. -/
def withAlias (command : Command) (operand : Handle) : HubM Command := do
  build (command.addAlias (← require .aliasText operand.text?))

/-- The command with a description, if the operand is a text. -/
def withDescription (command : Command) (operand : Handle) : HubM Command := do
  return command.setDescription (← require .description operand.text?)

/-- The command with an access level, if the operand is a whole number. -/
def withAccessLevel (command : Command) (operand : Handle) : HubM Command := do
  return command.restrictAccess (← require .accessLevel operand.int?)

/-- The command with a precondition, if the operand can be called. -/
def withPrecondition (command : Command) (operand : Handle) : HubM Command := do
  return command.setPrecondition (← requireCallable .precondition operand).precondition

/-- The command with an action, if the operand can be called. -/
def withAction (command : Command) (operand : Handle) : HubM Command := do
  return command.setAction (← requireCallable .action operand).action

/-- The command with one more root slot, if the operand is a slot. -/
def withArgument (command : Command) (operand : Handle) : HubM Command := do
  let id ← require .rootArgument operand.slot?
  build (command.addArgument (← slotsOf command.arguments) id (← slot id))

/-- The operand that root arguments come to. -/
def draftArguments : ArgumentsSketch → HubM Handle
  | .bracketed text => return .text text
  | .written arguments => do return .list (← draftEach arguments)

/-- The items of an operand that is gone through. -/
def itemsOf (operand : Handle) : HubM (List Handle) :=
  conclude (Failure.ofMismatch operand.items?)

/-- The root slots that an operand stands for: a text is read as bracket
notation. -/
def rootsOf (operand : Handle) : HubM (List Handle) := do
  match operand.text? with
  | some text => return (← infer text).map Handle.slot
  | none => itemsOf operand

/-- The aliases that a value stands for. -/
def aliasesOf (d : Datum) : HubM (List Handle) := do
  let items ← require (.notSpread d.typeName) d.items?.toOption
  return items.map Handle.datum

/-- Builds the command of a sketch whose aliases and root arguments have been
built. -/
def assemble (sketch : CommandSketch) (aliases : List Handle) (arguments : Handle) :
    HubM Command := do
  let name ← require .commandName sketch.name.text?
  let mut command ← build (Command.make name)
  command ← aliases.foldlM withAlias command
  if let some description := sketch.description then
    command ← withDescription command (.datum description)
  command ← withAccessLevel command (.datum (sketch.accessLevel.getD (.int 0)))
  if let some precondition := sketch.precondition then
    command ← withPrecondition command (← preconditionOf precondition)
  if let some action := sketch.action then
    command ← withAction command (← actionOf action)
  (← rootsOf arguments).foldlM withArgument command

/-- Builds a command: first its root arguments, and then the command with its
aliases. -/
def construct (sketch : CommandSketch) : HubM CommandId := do
  let arguments ← draftArguments sketch.arguments
  let aliases ← aliasesOf sketch.aliases
  newCommand (← assemble sketch aliases arguments)

/-- Builds the command around its action. The aliases come before the root
arguments here, and that the action can be called is seen to before the rest. -/
def decorate (sketch : CommandSketch) : HubM CommandId := do
  let aliases ← aliasesOf sketch.aliases
  let arguments ← draftArguments sketch.arguments
  match sketch.action with
  | some (.callback _) => newCommand (← assemble sketch aliases arguments)
  | _ => mismatch .decoratedAction

/-- The registry with a marker, if the operand is a text. -/
def withMarker (registry : Registry) (operand : Handle) : HubM Registry := do
  return registry.useMarker (← require .registryMarker operand.text?)

/-- The registry with an error sink, if the operand can be called. -/
def withSink (registry : Registry) (operand : Handle) : HubM Registry := do
  return { registry with sink := some (← requireCallable .sink operand).sink }

/-- The registry with a suggester, if the operand can be called. -/
def withSuggester (registry : Registry) (operand : Handle) : HubM Registry := do
  return { registry with suggester := (← requireCallable .suggester operand).suggester }

/-- Builds a registry. -/
def establish (sketch : RegistrySketch) : HubM RegistryId := do
  let mut registry : Registry :=
    { colorful := sketch.colorful.truthy, fancy := sketch.fancy.truthy }
  registry ← withMarker registry (.datum (sketch.marker.getD (.text "/")))
  if let some sink := sketch.sink then
    registry ← withSink registry (← sinkOf sink)
  registry ← withSuggester registry (← suggesterOf (sketch.suggester.getD .affix))
  newRegistry registry

end Chatline.HubM
