import Chatline.Datum.Printer
import Chatline.Ledger
import Chatline.Styled
import Chatline.Text.Quoted
/-!
# Faults

A fault is what a user did wrong on one line: a whole sentence, the kind of
mistake, and details for whoever reports it. Each kind but the general one has
a stable code.
-/

namespace Chatline

/-- The stable codes of faults, grouped by routing, permission and arguments. -/
inductive FaultCode where
  /-- No command has the alias. -/
  | unknownCommand
  /-- Commands that may have been meant. -/
  | relatedCommands
  /-- The caller's level is too low. -/
  | permissionDenied
  /-- The precondition of a command does not hold. -/
  | preconditionFailed
  /-- A required argument is missing. -/
  | missingArgument
  /-- A word is no option of an enum. -/
  | unrecognizedOption
  /-- A word does not satisfy the rule of its argument. -/
  | invalidArgument
deriving Repr, DecidableEq

namespace FaultCode

/-- All codes in order. -/
def all : List FaultCode :=
  [unknownCommand, relatedCommands, permissionDenied, preconditionFailed, missingArgument,
   unrecognizedOption, invalidArgument]

/-- The number of a code. -/
def number : FaultCode → Nat
  | unknownCommand => 11101
  | relatedCommands => 11102
  | permissionDenied => 11111
  | preconditionFailed => 11112
  | missingArgument => 11121
  | unrecognizedOption => 11122
  | invalidArgument => 11123

/-- The name of a code. -/
def name : FaultCode → String
  | unknownCommand => "UNKNOWN_COMMAND"
  | relatedCommands => "RELATED_COMMANDS"
  | permissionDenied => "PERMISSION_DENIED"
  | preconditionFailed => "PRECONDITION_FAILED"
  | missingArgument => "MISSING_ARGUMENT"
  | unrecognizedOption => "UNRECOGNIZED_OPTION"
  | invalidArgument => "INVALID_ARGUMENT"

/-- The code of a name. -/
def ofName? (name : String) : Option FaultCode := all.find? fun code => code.name == name

end FaultCode

/-- The kinds of fault. -/
inductive FaultKind where
  /-- A fault of no special kind, without a code. -/
  | general
  /-- A fault with a code. -/
  | coded (code : FaultCode)
deriving Repr, DecidableEq

namespace FaultKind

/-- All kinds of fault. -/
def all : List FaultKind := general :: FaultCode.all.map coded

/-- The code of a kind, if it has one. -/
def code? : FaultKind → Option FaultCode
  | general => none
  | coded code => some code

/-- The name of a kind, as messages write it. -/
def name : FaultKind → String
  | general => "ParseError"
  | coded .unknownCommand => "CommandNotFoundError"
  | coded .relatedCommands => "RelatedCommandsHint"
  | coded .permissionDenied => "PermissionDeniedError"
  | coded .preconditionFailed => "PreconditionFailedError"
  | coded .missingArgument => "MissingRequiredArgumentError"
  | coded .unrecognizedOption => "UnrecognizedEnumValueError"
  | coded .invalidArgument => "ArgumentValidationFailedError"

/-- The kind of a name. -/
def ofName? (name : String) : Option FaultKind := all.find? fun kind => kind.name == name

/-- The title that a fault of a kind is reported under. -/
def title : FaultKind → String
  | general => "parse error"
  | coded .unknownCommand => "unknown command"
  | coded .relatedCommands => "did you mean"
  | coded .permissionDenied => "permission denied"
  | coded .preconditionFailed => "precondition failed"
  | coded .missingArgument => "missing argument"
  | coded .unrecognizedOption => "unrecognized option"
  | coded .invalidArgument => "invalid argument"

end FaultKind

/-- A detail of a fault. -/
inductive Detail where
  /-- Plain data. -/
  | datum (d : Datum)
  /-- A fault code. -/
  | code (c : FaultCode)
  /-- A text with a style of its own. -/
  | styled (t : Styled)
  /-- The argument or command of this name. -/
  | named (name : String)
  /-- The rule with this label. -/
  | rule (label : String)
  /-- Something that can be called, such as an error sink. -/
  | callback

/-- What the runtime prints for the objects that a detail may stand for. That is up to
what an object is when it is printed, and for a callback to its place in memory. -/
structure ObjectForms where
  /-- The argument or command of a name. -/
  named : String → String
  /-- Something that can be called. -/
  callback : String

/-- Stand-ins for the forms where nothing is known of the runtime: they show no more than
the details say. -/
def ObjectForms.plain : ObjectForms where
  named name := "<" ++ Text.quoted name ++ ">"
  callback := "<function>"

namespace Detail

/-- A text as a detail. -/
def text (s : String) : Detail := datum (.text s)

/-- The name of a detail's type, as messages write it. -/
def typeName : Detail → String
  | datum d => d.typeName
  | code _ => "FaultCode"
  | styled _ => "Text"
  | named _ => "Argument"
  | rule _ => "ValidationRule"
  | callback => "function"

/-- Whether a detail counts as true. -/
def truthy : Detail → Bool
  | datum d => d.truthy
  | styled t => t.plain != ""
  | _ => true

/-- The form of the rule with a label. -/
def ruleForm (label : String) : String := "validation-rule(label=" ++ Text.quoted label ++ ")"

/-- The form of a detail in a sentence, where objects are printed as told. -/
def display (forms : ObjectForms) : Detail → String
  | datum d => d.display
  | code c => toString c.number
  | styled t => t.plain
  | named name => forms.named name
  | rule label => ruleForm label
  | callback => forms.callback

end Detail

/-- A fault raised while a line is handled. -/
structure Fault where
  /-- What kind of mistake it is. -/
  kind : FaultKind
  /-- The whole sentence that tells the user. -/
  message : String
  /-- The details, by name. -/
  options : Ledger String Detail

namespace Fault

/-- The detail of a name. -/
def option? (fault : Fault) (name : String) : Option Detail := fault.options.value? name

/-- Whether the detail of a name is there and counts as true. -/
def flag (fault : Fault) (name : String) : Bool :=
  match fault.option? name with
  | some detail => detail.truthy
  | none => false

/-- The fault with more details; a detail of the same name is replaced. -/
def withOptions (fault : Fault) (more : Ledger String Detail) : Fault :=
  { fault with options := fault.options.putAll more }

end Fault

end Chatline
