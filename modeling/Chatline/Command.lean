import Chatline.Routine
import Chatline.Grammar.Usage
/-!
# Commands

A command has a name for people, aliases to call it by, a grammar for the
words that follow the alias, an access level and a precondition that guard it,
and an action. The builder operations here are on a single command; each gives
the changed command or the reason why it was refused.
-/

namespace Chatline

namespace Signature

/-- The usage line: the marker, an alias and the grammar. The given alias
stands in for the first one unless it is empty. A command without aliases has
no usage line. -/
def usage (signature : Signature) (grammar : Grammar) (called marker : String) : String :=
  match signature.aliases with
  | [] => ""
  | first :: _ =>
    grammar.renderAfter (marker ++ (if called = "" then first else called))

/-- The help line: the name, the description and a usage line. -/
def help (signature : Signature) (usage : String) : String :=
  signature.name ++
    (if signature.description = "" then "" else ": " ++ signature.description) ++
    " (Usage: " ++ usage ++ ")"

/-- The fields of a command, in unambiguous form. -/
def fields (signature : Signature) (grammar : Grammar) : List (String × String) :=
  [("name", Text.quoted signature.name), ("aliases", Text.quotedList signature.aliases),
   ("description", Text.quoted signature.description),
   ("access_level", toString signature.accessLevel),
   ("arguments", Text.bracketed grammar.shown)]

/-- The unambiguous form of a command. -/
def shown (signature : Signature) (grammar : Grammar) : String :=
  Grammar.object "command" (signature.fields grammar)

end Signature

/-- A command. -/
structure Command extends Signature where
  /-- What is asked before each run. -/
  precondition : Option Precondition := none
  /-- What the command does. -/
  action : Option Action := none

namespace Command

/-- A new command; its name must hold something besides blanks. -/
def make (name : String) : Except BuildError Command :=
  let name := Text.stripped name
  if name = "" then .error .blankCommandName else .ok { name }

/-- The command with one more alias, stripped and lowered. An alias is a single
word. -/
def addAlias (command : Command) (called : String) : Except BuildError Command :=
  let called := Text.stripped called
  if called = "" then .error .blankAlias
  else if called.toList.any Text.isBlank then .error (.aliasWithBlank called)
  else .ok { command with aliases := command.aliases ++ [Text.lowered called] }

/-- The command with another description. -/
def setDescription (command : Command) (description : String) : Command :=
  { command with description }

/-- The command for callers of a level or more. -/
def restrictAccess (command : Command) (level : Int) : Command :=
  { command with accessLevel := level }

/-- The command with another action. -/
def setAction (command : Command) (action : Action) : Command :=
  { command with action := some action }

/-- The command with another precondition. -/
def setPrecondition (command : Command) (precondition : Precondition) : Command :=
  { command with precondition := some precondition }

/-- The command with one more root slot; `siblings` are the ones it has. -/
def addArgument (command : Command) (siblings : List Slot) (id : SlotId) (slot : Slot) :
    Except BuildError Command := do
  Slot.checkOrder (.command command.name) siblings slot
  return { command with arguments := command.arguments ++ [id] }

end Command

end Chatline
