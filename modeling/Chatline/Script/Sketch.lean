import Chatline.Routine
import Chatline.Registry.Suggestion
/-!
# Sketches

A script describes what a host does with the library: which objects it builds
and how its callbacks behave. These are the descriptions; nothing is checked
yet, so most places take any value.
-/

namespace Chatline.Script

/-- What is supplied where a callback is wanted: the callback, or a value that
cannot be called. -/
inductive Supplied (α : Type) where
  /-- A value that cannot be called. -/
  | datum (d : Datum)
  /-- A callback. -/
  | callback (sketch : α)

/-- What a callback raises. -/
inductive RaiseKind where
  /-- A fault. -/
  | fault (kind : FaultKind)
  /-- An error that is no fault. -/
  | error (error : HostError)
  /-- Nothing that is known by its name. -/
  | unknown

/-- What goes by a name and can be raised. -/
def RaiseKind.ofName (name : String) : RaiseKind :=
  match FaultKind.ofName? name, HostError.ofName? name with
  | some kind, _ => .fault kind
  | none, some e => .error e
  | none, none => .unknown

/-- Something that a callback raises, with the message it is given. -/
structure RaiseSketch where
  /-- What is raised. -/
  kind : RaiseKind
  /-- The message. -/
  message : Datum := .text ""

/-- The failure that comes of it. The message of a fault must be a text; any
other message is put as it would be in a sentence. -/
def RaiseSketch.failure (sketch : RaiseSketch) : Failure :=
  match sketch.kind, sketch.message with
  | .fault kind, .text message => .fault ⟨kind, message, []⟩
  | .fault kind, _ => .mismatch (.faultMessage kind.name)
  | .error error, message => .raised error message.display
  | .unknown, _ => .unknownKey

/-- A precondition: it leaves a note and then raises, or returns the next item
of a sequence and in the end the last one for ever, or returns a value. -/
structure PreconditionSketch where
  /-- What it raises. -/
  raises : Option RaiseSketch := none
  /-- What it returns call by call; empty for a precondition that always returns
  the same. -/
  sequence : List Datum := []
  /-- What it returns otherwise. -/
  returns : Datum := .null

/-- A line that an action dispatches. -/
structure NestedLine where
  /-- The name that the registry goes by. -/
  registry : String
  /-- The line. -/
  line : Datum
  /-- The level of the caller. -/
  level : Datum

/-- An action: it may dispatch a line, leaves a note on its bindings, and then
raises or returns a value. -/
structure ActionSketch where
  /-- The line that it dispatches. -/
  dispatches : Option NestedLine := none
  /-- The label of its notes. -/
  label : Datum := .text ""
  /-- The keys that it looks up. -/
  keys : List Datum := []
  /-- What it raises. -/
  raises : Option RaiseSketch := none
  /-- What it returns otherwise. -/
  returns : Datum := .null

/-- A suggester of the host's: it leaves a note and then raises, or returns the
word it was asked about, or a value. -/
structure SuggesterSketch where
  /-- What it raises. -/
  raises : Option RaiseSketch := none
  /-- Whether it returns the word. -/
  echo : Bool := false
  /-- What it returns otherwise. -/
  returns : Datum := .null

/-- An error sink: it leaves a note and then may raise. -/
structure SinkSketch where
  /-- The label of its notes. -/
  label : Datum := .text ""
  /-- What it raises. -/
  raises : Option RaiseSketch := none

/-- The predicate of a rule of the host's. -/
inductive PredicateSketch where
  /-- The text has at least so many characters. -/
  | minLength (length : Datum)
  /-- The text contains another. -/
  | contains (part : Datum)
  /-- The text is this one. -/
  | equals (whole : Datum)
  /-- The truth of a value, whatever the text. -/
  | const (d : Datum)
  /-- Raises an error of the host's own. -/
  | raises (message : Datum)
  /-- A value that cannot be called. -/
  | datum (d : Datum)

/-- A rule. -/
inductive RuleSketch where
  /-- One of the library's rules. -/
  | given (rule : Rule)
  /-- Nothing that is known by its name. -/
  | unknown
  /-- A value that is no rule. -/
  | datum (d : Datum)
  /-- A rule of the host's. A decorator looks at the label before there is a
  predicate. -/
  | made (label : Datum) (predicate : PredicateSketch) (decorator : Bool)

mutual

/-- An argument to be built: what is set on it, in this order. -/
inductive Blueprint where
  /-- The object that goes by a name. -/
  | ref (name : String)
  /-- A value that is no argument. -/
  | datum (d : Datum)
  /-- A new argument. -/
  | make (name optional : Datum) (as? : Option String) (isEnum : Bool) (rule : Option RuleSketch)
      (earlyDefault : Option Datum) (arguments options : Blueprints)
      (default : Option Datum)

/-- Arguments to be built one after the other. -/
inductive Blueprints where
  /-- Each of some arguments. -/
  | each (blueprints : List Blueprint)
  /-- A value that cannot be gone through. -/
  | datum (d : Datum)

end

instance : Inhabited Blueprint := ⟨.datum .null⟩

instance : Inhabited Blueprints := ⟨.each []⟩

/-- The root arguments of a command. -/
inductive ArgumentsSketch where
  /-- A grammar in bracket notation. -/
  | bracketed (text : String)
  /-- Arguments one by one. -/
  | written (arguments : Blueprints)

/-- A command to be built. -/
structure CommandSketch where
  /-- The name. -/
  name : Datum
  /-- The aliases; they are gone through item by item. -/
  aliases : Datum := .list []
  /-- The description. -/
  description : Option Datum := none
  /-- The access level. -/
  accessLevel : Option Datum := none
  /-- The precondition. -/
  precondition : Option (Supplied PreconditionSketch) := none
  /-- The action. -/
  action : Option (Supplied ActionSketch) := none
  /-- The root arguments. -/
  arguments : ArgumentsSketch := .written (.each [])

/-- A suggester to be used. -/
inductive SuggesterChoice where
  /-- The built-in one. -/
  | affix
  /-- One of the host's. -/
  | supplied (suggester : Supplied SuggesterSketch)

/-- A registry to be built. -/
structure RegistrySketch where
  /-- The marker. -/
  marker : Option Datum := none
  /-- The error sink. -/
  sink : Option (Supplied SinkSketch) := none
  /-- The suggester. -/
  suggester : Option SuggesterChoice := none
  /-- Whether reports have colours. -/
  colorful : Datum := .bool false
  /-- Whether reports have a panel. -/
  fancy : Datum := .bool false

/-- A detail of a fault. -/
inductive DetailSketch where
  /-- Plain data. -/
  | datum (d : Datum)
  /-- The fault code of a name. -/
  | code (name : String)
  /-- A text with a style of its own. -/
  | styled (text style : Datum)
  /-- A callback. -/
  | callback

/-- The fault code of a name, which must be one. -/
def codeNamed (name : String) : Except Failure FaultCode :=
  match FaultCode.ofName? name with
  | some code => .ok code
  | none => .error .unknownKey

/-- The style that a value names; what counts as false is none. -/
def styleNamed (d : Datum) : Style := ⟨d.display, !d.truthy⟩

/-- The detail of a sketch. -/
def DetailSketch.detail : DetailSketch → Except Failure Detail
  | datum d => .ok (.datum d)
  | code name => (codeNamed name).map .code
  | styled (.text s) style => .ok (.styled (Styled.ofString s (styleNamed style)))
  | styled d _ => .error (.mismatch (.noAttribute d.typeName "translate"))
  | callback => .ok .callback

/-- The details of some sketches. -/
def detailsOf (sketches : Ledger String DetailSketch) : Except Failure (Ledger String Detail) :=
  sketches.mapM fun (name, sketch) => do return (name, ← sketch.detail)

/-- How a host wants faults to be reported. -/
structure ThemeSketch where
  /-- The program that reports name. -/
  program : Option Datum := none
  /-- The styles, by the part they are for. -/
  styles : Ledger String Datum := []
  /-- The labels of codes, by the names of the codes. -/
  codes : Ledger String Datum := []

/-- The theme of a sketch. -/
def ThemeSketch.theme (sketch : ThemeSketch) : Except Failure Theme := do
  let codes ← sketch.codes.mapM fun (name, label) => do return (← codeNamed name, label)
  let styles := sketch.styles.map fun (part, style) => (part, styleNamed style)
  let program := (sketch.program.map Detail.datum).getD Theme.standard.program
  return { Theme.standard with program, styles, codes }

/-- An operand of a method call. -/
inductive Term where
  /-- The object that goes by a name. -/
  | ref (name : String)
  /-- Plain data. -/
  | datum (d : Datum)
  /-- A new argument. -/
  | argument (blueprint : Blueprint)
  /-- A list of operands. -/
  | list (terms : List Term)
  /-- A rule. -/
  | rule (sketch : RuleSketch)
  /-- An action. -/
  | action (supplied : Supplied ActionSketch)
  /-- A precondition. -/
  | precondition (supplied : Supplied PreconditionSketch)
  /-- A suggester. -/
  | suggester (choice : SuggesterChoice)
  /-- An error sink. -/
  | sink (supplied : Supplied SinkSketch)

instance : Inhabited Term := ⟨.datum .null⟩

end Chatline.Script
