import Chatline.Command
import Chatline.Registry.Suggestion
import Chatline.Text.Blank
/-!
# Registries

A registry is a list of commands with the settings by which lines are taken for
calls of them: the marker that a line must start with, the suggester for words
that call nothing, and where faults go.
-/

namespace Chatline

/-- A list of commands with its settings. -/
structure Registry where
  /-- What a line must start with, up to letter case; empty for nothing. -/
  marker : String := ""
  /-- What receives the faults; without one they are put on the console. -/
  sink : Option Sink := none
  /-- What names the aliases that may have been meant. -/
  suggester : Suggester := .affix
  /-- Whether reports have colours. -/
  colorful : Bool := false
  /-- Whether reports have a panel. -/
  fancy : Bool := false
  /-- The commands, in the order of registration. -/
  commands : List CommandId := []

namespace Registry

/-- The registry with another marker, stripped. -/
def useMarker (registry : Registry) (marker : String) : Registry :=
  { registry with marker := Text.stripped marker }

/-- What follows the marker in a line that is taken for a call: the stripped
line must not be empty, and its lowered form must start with the lowered
marker. As many characters are cut off as the marker has. -/
def callIn? (registry : Registry) (line : String) : Option String :=
  let line := Text.strip line.toList
  let marker := registry.marker.toList
  if line.isEmpty then none
  else if marker.isEmpty then some (String.ofList line)
  else if (Text.lower marker).isPrefixOf (Text.lower line) then
    some (String.ofList (line.drop marker.length))
  else none

/-- The details that a registry adds to the faults it reports. -/
def faultOptions (registry : Registry) : Ledger String Detail :=
  [("sink", if registry.sink.isSome then .callback else .datum .unset),
   ("colorful", .datum (.bool registry.colorful)), ("fancy", .datum (.bool registry.fancy))]

/-- The position, in a list of commands, of the first that has an alias. -/
def position? (called : String) (commands : List Signature) : Option Nat :=
  commands.findIdx? fun command => command.aliases.contains (Text.lowered called)

/-- The fault of a word that calls no command. -/
def notFound (called : String) : Fault where
  kind := .coded .unknownCommand
  message := "Command '" ++ called ++ "' not found."
  options := [("input", .text called)]

/-- The hint at aliases that may have been meant. -/
def didYouMean (called : String) (suggestions : List Datum) : Fault where
  kind := .coded .relatedCommands
  message :=
    "Did you mean: " ++
      Text.alternatives (suggestions.map fun s => "'" ++ s.display ++ "'") ++ "?"
  options := [("input", .text called), ("suggestions", .datum (.tuple suggestions))]

/-- Whether the level of a caller is too low for a command. A level that is no
number cannot be compared. -/
def isDenied (command : Signature) (level : Datum) : Except Mismatch Bool :=
  match level.isExceededBy? command.accessLevel with
  | some low => .ok low
  | none => .error (.notComparable ">" "int" level.typeName)

/-- The fault of a caller whose level is too low. -/
def denied (command : Signature) (level : Datum) : Fault where
  kind := .coded .permissionDenied
  message :=
    "Command '" ++ command.name ++ "' requires permission level " ++
      toString command.accessLevel ++ ". (Currently only " ++ level.display ++ ")"
  options := [("command", .named command.name), ("access_level", .datum level)]

/-- The fault of a precondition that does not hold; its message must be a
text. -/
def refused (command : Signature) (reason : Datum) : Except Failure Fault :=
  match reason with
  | .text message => .ok
      { kind := .coded .preconditionFailed, message, options := [("command", .named command.name)] }
  | _ => .error (.mismatch (.faultMessage (FaultKind.coded .preconditionFailed).name))

end Registry

end Chatline
