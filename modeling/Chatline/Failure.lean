import Chatline.Failure.Mismatch
import Chatline.Fault
/-!
# Failures

Everything that can go wrong, as causes. A `BuildError` is raised by the
builder call that would break a grammar; a `Fault` by a line; a `Mismatch` by a
value of the wrong type; and a host's callback may raise what it likes.
-/

namespace Chatline

/-- The owner of a list of sibling arguments, as messages name it. -/
inductive Owner where
  /-- The argument of this name. -/
  | argument (name : String)
  /-- The command of this name. -/
  | command (name : String)
  /-- A grammar read from bracket notation. -/
  | inferred
deriving Repr, DecidableEq

/-- The owner in a sentence. -/
def Owner.phrase : Owner → String
  | argument name => "argument " ++ Text.quoted name
  | command name => "command " ++ Text.quoted name
  | inferred => "inferred grammar"

/-- The families of build errors. -/
inductive BuildCategory where
  /-- A name or alias is not usable. -/
  | invalidName
  /-- A required argument comes after an optional one. -/
  | orderingViolation
  /-- A default is not among the legal values. -/
  | invalidValue
  /-- A grammar is not in bracket notation. -/
  | malformedGrammar
  /-- The call does not suit the state of what it is made on. -/
  | invalidState
deriving Repr, DecidableEq

namespace BuildCategory

/-- All families of build errors. -/
def all : List BuildCategory :=
  [invalidName, orderingViolation, invalidValue, malformedGrammar, invalidState]

/-- The name of a family, as messages write it. -/
def name : BuildCategory → String
  | invalidName => "InvalidNameError"
  | orderingViolation => "OrderingViolationError"
  | invalidValue => "InvalidValueError"
  | malformedGrammar => "MalformedGrammarError"
  | invalidState => "InvalidStateError"

end BuildCategory

/-- Why a builder call was refused. -/
inductive BuildError where
  /-- The name of an argument is blank. -/
  | blankArgumentName
  /-- The name of a command is blank. -/
  | blankCommandName
  /-- An alias is blank. -/
  | blankAlias
  /-- An alias holds a blank. -/
  | aliasWithBlank (called : String)
  /-- The brackets of a word of bracket notation are empty. -/
  | unnamedBrackets (position : Nat)
  /-- A required argument would come after an optional one. -/
  | requiredAfterOptional (owner : Owner) (name : String)
  /-- A default does not satisfy the rule of its argument. -/
  | defaultBreaksRule (value name : String)
  /-- The default of an enum names none of its options. -/
  | defaultNamesNoOption (value name : String)
  /-- There is nothing to read in a grammar. -/
  | emptyNotation
  /-- A word is not in bracket notation. -/
  | malformedWord (word : String)
  /-- An argument with a default would become required. -/
  | defaultForbidsRequired (name : String)
  /-- An argument with nested arguments would become an enum. -/
  | nestedForbidEnum (name : String)
  /-- An argument with nested arguments is given an option. -/
  | nestedForbidOptions (name : String)
  /-- An enum is given a nested argument. -/
  | enumForbidsNested (name : String)
  /-- A required argument is given a default. -/
  | requiredForbidsDefault (name : String)
  /-- A command without an action is run. -/
  | noAction (name : String)
deriving Repr, DecidableEq

namespace BuildError

/-- The family of a build error. -/
def category : BuildError → BuildCategory
  | blankArgumentName => .invalidName
  | blankCommandName => .invalidName
  | blankAlias => .invalidName
  | aliasWithBlank _ => .invalidName
  | unnamedBrackets _ => .invalidName
  | requiredAfterOptional .. => .orderingViolation
  | defaultBreaksRule .. => .invalidValue
  | defaultNamesNoOption .. => .invalidValue
  | emptyNotation => .malformedGrammar
  | malformedWord _ => .malformedGrammar
  | defaultForbidsRequired _ => .invalidState
  | nestedForbidEnum _ => .invalidState
  | nestedForbidOptions _ => .invalidState
  | enumForbidsNested _ => .invalidState
  | requiredForbidsDefault _ => .invalidState
  | noAction _ => .invalidState

/-- The sentence that reports a build error. -/
def message : BuildError → String
  | blankArgumentName => "argument 'name' cannot be empty"
  | blankCommandName => "command 'name' cannot be empty"
  | blankAlias => "command aliases cannot be empty"
  | aliasWithBlank called => "command alias " ++ Text.quoted called ++ " cannot contain whitespace"
  | unnamedBrackets position =>
    "argument " ++ toString position ++ " must contain a name within its brackets"
  | requiredAfterOptional owner name =>
    owner.phrase ++ " cannot take required argument " ++ Text.quoted name ++
      " after an optional one; optional arguments must come last"
  | defaultBreaksRule value name =>
    "default " ++ Text.quoted value ++ " of argument " ++ Text.quoted name ++
      " does not fulfill the validation rule"
  | defaultNamesNoOption value name =>
    "default " ++ Text.quoted value ++ " of argument " ++ Text.quoted name ++
      " does not name one of its options"
  | emptyNotation => "infer() argument cannot be empty"
  | malformedWord word =>
    "argument " ++ Text.quoted word ++ " is not defined properly; arguments must be surrounded " ++
      "with <> if they are required, or [] if they are optional"
  | defaultForbidsRequired name =>
    "argument " ++ Text.quoted name ++ " has a default and cannot become required"
  | nestedForbidEnum name =>
    "argument " ++ Text.quoted name ++ " already has nested arguments and cannot become an enum"
  | nestedForbidOptions name =>
    "argument " ++ Text.quoted name ++ " already has nested arguments and cannot take options"
  | enumForbidsNested name =>
    "enum argument " ++ Text.quoted name ++ " only accepts options (use add_option)"
  | requiredForbidsDefault name =>
    "argument " ++ Text.quoted name ++ " must be optional or an enum to have a default"
  | noAction name => "command " ++ Text.quoted name ++ " has no action to execute"

end BuildError

/-- What a host's callback raises of its own accord, apart from faults. -/
inductive HostError where
  /-- An error of the host's own. -/
  | host
  /-- A build error of no special family. -/
  | structural
  /-- A build error of a family. -/
  | build (category : BuildCategory)
deriving Repr, DecidableEq

namespace HostError

/-- All errors that are no faults. -/
def all : List HostError := host :: structural :: BuildCategory.all.map build

/-- The name of an error, as messages write it. -/
def name : HostError → String
  | host => "HostError"
  | structural => "StructuralConfigurationError"
  | build category => category.name

/-- The error of a name. -/
def ofName? (name : String) : Option HostError := all.find? fun error => error.name == name

end HostError

/-- Why a call did not give a result. -/
inductive Failure where
  /-- A value is of the wrong type. -/
  | mismatch (m : Mismatch)
  /-- A builder call was refused. -/
  | build (e : BuildError)
  /-- A line could not be handled. -/
  | fault (f : Fault)
  /-- The options are asked for of an argument that is no enum. -/
  | notAnEnum (name : String)
  /-- A key is not bound. -/
  | unknownKey
  /-- A callback raised an error. -/
  | raised (error : HostError) (message : String)
  /-- Nothing goes by this name. -/
  | unbound (name : String)
  /-- Lines were dispatched from within lines too often. -/
  | nestedTooDeep

namespace Failure

/-- The sentence that reports a failure. -/
def message : Failure → String
  | mismatch m => m.message
  | build e => e.message
  | fault f => f.message
  | notAnEnum name => "argument " ++ Text.quoted name ++ " is not an enum"
  | unknownKey => ""
  | raised _ message => message
  | unbound name => name
  | nestedTooDeep => "maximum recursion depth exceeded"

/-- A computation that refuses with a build error, as one that may fail. -/
def ofBuild {α : Type} : Except BuildError α → Except Failure α
  | .ok a => .ok a
  | .error e => .error (.build e)

/-- A computation that refuses a value of the wrong type, as one that may
fail. -/
def ofMismatch {α : Type} : Except Mismatch α → Except Failure α
  | .ok a => .ok a
  | .error e => .error (.mismatch e)

end Failure

end Chatline
