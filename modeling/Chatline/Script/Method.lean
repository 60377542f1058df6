import Chatline.Handle
/-!
# Methods

The calls that a host can make by name on an object it has built, and on which
objects each of them can be made.
-/

namespace Chatline.Script

/-- The calls that can be made on objects. -/
inductive Method where
  /-- An argument may be left out. -/
  | makeOptional
  /-- An argument must be given. -/
  | makeRequired
  /-- An argument takes the name of an option. -/
  | makeEnum
  /-- Adds a nested or root argument. -/
  | addArgument
  /-- Adds nested or root arguments. -/
  | addArguments
  /-- Adds an option. -/
  | addOption
  /-- Adds options. -/
  | addOptions
  /-- Sets a default. -/
  | setDefault
  /-- Sets a rule. -/
  | setValidator
  /-- Gives an argument a value. -/
  | bind
  /-- Gives arguments their fallbacks. -/
  | reset
  /-- The option that a word names. -/
  | option
  /-- The argument of a name. -/
  | find
  /-- Whether a value satisfies the rule of an argument. -/
  | isValid
  /-- Adds aliases. -/
  | addAlias
  /-- Sets the description. -/
  | setDescription
  /-- Sets the access level. -/
  | restrictAccess
  /-- Sets the action. -/
  | setAction
  /-- Sets the precondition. -/
  | setPrecondition
  /-- Adds root arguments in bracket notation. -/
  | inferArguments
  /-- Asks the precondition. -/
  | check
  /-- Runs the action. -/
  | execute
  /-- The usage line. -/
  | usage
  /-- The help line or lines. -/
  | help
  /-- Refuses a grammar that breaks a rule of building. -/
  | validate
  /-- Sets the marker. -/
  | useMarker
  /-- Sets the suggester. -/
  | useSuggester
  /-- Sets the error sink. -/
  | onError
  /-- Registers a command. -/
  | addCommand
  /-- Registers commands. -/
  | addCommands
  /-- The command of an alias. -/
  | resolve
  /-- The aliases that may have been meant. -/
  | suggest
  /-- The table of commands. -/
  | table
deriving Repr, DecidableEq

namespace Method

/-- All calls. -/
def all : List Method :=
  [makeOptional, makeRequired, makeEnum, addArgument, addArguments, addOption, addOptions,
   setDefault, setValidator, bind, reset, option, find, isValid, addAlias, setDescription,
   restrictAccess, setAction, setPrecondition, inferArguments, check, execute, usage, help,
   validate, useMarker, useSuggester, onError, addCommand, addCommands, resolve, suggest, table]

/-- The name of a call in a script. -/
def name : Method → String
  | makeOptional => "make_optional"
  | makeRequired => "make_required"
  | makeEnum => "make_enum"
  | addArgument => "add_argument"
  | addArguments => "add_arguments"
  | addOption => "add_option"
  | addOptions => "add_options"
  | setDefault => "set_default"
  | setValidator => "set_validator"
  | bind => "bind"
  | reset => "reset"
  | option => "option"
  | find => "find"
  | isValid => "is_valid"
  | addAlias => "add_alias"
  | setDescription => "set_description"
  | restrictAccess => "restrict_access"
  | setAction => "set_action"
  | setPrecondition => "set_precondition"
  | inferArguments => "infer_arguments"
  | check => "check"
  | execute => "execute"
  | usage => "usage"
  | help => "help"
  | validate => "validate"
  | useMarker => "use_prefix"
  | useSuggester => "use_suggester"
  | onError => "on_error"
  | addCommand => "add_command"
  | addCommands => "add_commands"
  | resolve => "resolve"
  | suggest => "suggest"
  | table => "table"

/-- The call of a name. -/
def ofName? (name : String) : Option Method := all.find? fun method => method.name == name

/-- The calls that can be made on a handle. -/
def callsOn : Handle → List Method
  | .slot _ =>
    [makeOptional, makeRequired, makeEnum, addArgument, addArguments, addOption, addOptions,
     setDefault, setValidator, bind, reset, option, find, isValid]
  | .command _ =>
    [addAlias, setDescription, restrictAccess, setAction, setPrecondition, addArgument,
     addArguments, inferArguments, check, execute, usage, help, validate, reset, find]
  | .registry _ =>
    [useMarker, useSuggester, onError, addCommand, addCommands, resolve, suggest, usage, help,
     table]
  | .datum (.text _) => [find]
  | _ => []

end Method

end Chatline.Script
