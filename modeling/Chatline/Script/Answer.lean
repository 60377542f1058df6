import Chatline.Hub
/-!
# Answers of a script

What a host gets back from the library, in a form that can be shown: portraits
of slots, commands and registries as they are at the moment, and the results
of calls.
-/

namespace Chatline.Script

/-- An object as it is at some moment. -/
inductive Portrait where
  /-- A slot with what it owns. -/
  | slot (slot : Slot) (children : Grammar)
  /-- A command with its grammar. -/
  | command (command : Command) (grammar : Grammar)
  /-- A registry with the names of its commands. -/
  | registry (registry : Registry) (commands : List String)

/-- What a step of a script gives. -/
inductive Answer where
  /-- The object that the call was made on. -/
  | itself
  /-- Plain data. -/
  | datum (d : Datum)
  /-- An object as it is. -/
  | portrait (p : Portrait)
  /-- Sibling slots as they are. -/
  | siblings (grammar : Grammar)
  /-- A slot that a call gave. -/
  | slot (slot : Slot) (children : Grammar)
  /-- A command that a call gave. -/
  | command (name : String)
  /-- Bindings, with answers to look-ups. -/
  | bindings (view : BindingsView)
  /-- Bindings that a call gave. -/
  | boundBindings (view : BindingsView)
  /-- Something that can be called. -/
  | callback
  /-- A table of commands. -/
  | table (t : Table)
  /-- A list that a call gave, item by item. -/
  | list (items : List Answer)
  /-- Fields with their values. -/
  | fields (rows : List (String × String))

end Chatline.Script

namespace Chatline.HubM

open Script

/-- The grammar of a single slot with all it owns. -/
def ownGrammar (id : SlotId) : HubM Grammar := do grammar (← slot id).children

/-- The portrait of a slot, a command or a registry; nothing else has one. -/
def portrait? : Handle → HubM (Option Portrait)
  | .slot id => do return some (.slot (← slot id) (← ownGrammar id))
  | .command id => do
    let command ← HubM.command id
    return some (.command command (← grammar command.arguments))
  | .registry id => do
    let registry ← HubM.registry id
    return some (.registry registry ((← commandsOf registry).map (·.name)))
  | _ => return none

/-- The unambiguous form of a command with its grammar. -/
def shownCommand (command : Command) : HubM String := do
  return command.toSignature.shown (← grammar command.arguments)

/-- The unambiguous form of the commands of a registry. -/
def shownCommands (registry : Registry) : HubM String := do
  match ← (← commandsOf registry).mapM shownCommand with
  | [command] => return "(" ++ command ++ ",)"
  | commands => return "(" ++ ", ".intercalate commands ++ ")"

/-- The fields of a handle, in unambiguous form; plain data, lists and tables
have none, and of what can be called a rule alone. -/
def fieldsOf : Handle → HubM (List (String × String))
  | .slot id => do return Grammar.fields (← slot id) (← ownGrammar id).shown
  | .command id => do
    let command ← HubM.command id
    return command.toSignature.fields (← grammar command.arguments)
  | .registry id => do
    let registry ← HubM.registry id
    return [("prefix", Text.quoted registry.marker), ("commands", ← shownCommands registry)]
  | .bindings b => return b.rows.map fun (path, value) => (path, Text.quoted value)
  | handle => do
    match ← rule? handle with
    | some rule => return [("label", Text.quoted rule.label)]
    | none => mismatch (.noAttribute handle.typeName "__rich_repr__")

mutual

/-- The unambiguous form of a handle. -/
def shown : Handle → HubM String
  | .slot id => do return Grammar.object "argument" (← fieldsOf (.slot id))
  | .command id => do return Grammar.object "command" (← fieldsOf (.command id))
  | .registry id => do return Grammar.object "registry" (← fieldsOf (.registry id))
  | .bindings b => return b.shown
  | .datum d => return d.shown
  | .callable type id => do
    return ((← callable? (.callable type id)).map (·.shown)).getD ""
  | .list items => do return Text.bracketed (← shownAll items)
  | .table _ => return ""

/-- The unambiguous forms of some handles. -/
def shownAll : List Handle → HubM (List String)
  | [] => return []
  | handle :: handles => do
    let first ← shown handle
    return first :: (← shownAll handles)

end

/-- The form of a handle in a sentence. -/
def display (handle : Handle) : HubM String :=
  match handle.datum? with
  | some d => return d.display
  | none => shown handle

mutual

/-- The answer that shows what a call gave. -/
def answerOf : Handle → HubM Answer
  | .slot id => do return .slot (← slot id) (← ownGrammar id)
  | .command id => do return .command (← command id).name
  | .registry id => do
    let registry ← HubM.registry id
    return .portrait (.registry registry ((← commandsOf registry).map (·.name)))
  | .bindings b => do return .boundBindings (b.view (← get).slots [])
  | .datum d => return .datum d
  | .callable .. => return .callback
  | .list items => do return .list (← answersOf items)
  | .table t => return .table t

/-- The answers that show what a call gave, item by item. -/
def answersOf : List Handle → HubM (List Answer)
  | [] => return []
  | handle :: handles => do
    let first ← answerOf handle
    return first :: (← answersOf handles)

end

end Chatline.HubM
