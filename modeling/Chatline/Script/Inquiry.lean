import Chatline.Script.Step
import Chatline.Naming
/-!
# Inquiries

Questions that a host asks of one part of the library, without a script: how a
line is cut, how a grammar reads and is written, what a rule accepts, which
aliases are suggested, and how a fault is reported. Operands are looked at here,
so that the parts themselves can ask for what they need.
-/

namespace Chatline.Script

/-- The tokens of a line, if it is a text. -/
def tokensOf : Datum → Except Failure (List String)
  | .text line => .ok (Token.tokenize line)
  | _ => .error (.mismatch .tokenizedLine)

/-- The items of a value in one phrase; an item that is no text is refused. -/
def phraseOf (d : Datum) : Except Failure String := do
  let items ← Failure.ofMismatch d.items?
  match items.mapM Datum.text? with
  | some texts => return Text.alternatives texts
  | none => throw (.mismatch .alternatives)

/-- Runs a program on an empty hub. -/
def runAlone {α : Type} (program : HubM α) : Except Failure α :=
  match program.run {} with
  | .ok a _ => .ok a
  | .error failure _ => .error failure

/-- The arguments of a grammar in bracket notation. -/
def inferred (text : Datum) : Except Failure Grammar := runAlone do
  let text ← HubM.require .bracketText text.text?
  HubM.grammar (← HubM.infer text)

/-- What a rule says of each item of a value. -/
def ruleVerdicts (sketch : RuleSketch) (values : Datum) :
    Except Failure (Rule × List (Except Failure Bool)) := runAlone do
  let operand ← HubM.ruleOf sketch
  let rule ← HubM.require (.noAttribute operand.typeName "label") (← HubM.rule? operand)
  let values ← HubM.conclude (Failure.ofMismatch values.items?)
  return (rule, values.map fun
    | .text s => rule.accepts s
    | _ => .error (.mismatch .ruleSubject))

/-- Whether an alias is related to a word, where both may be any values. Nothing
is related to a word that counts as false. -/
def areRelated (called word : Datum) : Except Failure Bool :=
  if !word.truthy then .ok false
  else match called, word with
    | .text called, .text word => .ok (Affix.related called.toList word.toList)
    | .text _, word => .error (.mismatch (.soughtAffix word.typeName))
    | called, _ => .error (.mismatch (.noAttribute called.typeName "startswith"))

/-- Whether the first of each of some pairs is related to the second. A pair whose
parts cannot be compared fails on its own; what is no pair fails for all. -/
def relations (pairs : Datum) : Except Failure (List (Except Failure Bool)) := do
  (← Failure.ofMismatch pairs.items?).mapM fun pair => do
    let (called, word) ← Failure.ofMismatch pair.pair?
    return areRelated called word

/-- The suggestions of the built-in suggester for a word among commands. -/
def suggested (commands : List Signature) : Datum → Except Failure (List String)
  | .text word => .ok (Affix.suggest word commands)
  | word => .error (.mismatch (.noAttribute word.typeName "lower"))

/-- The suggestions of the built-in suggester for each item of `words`, among
commands that have the items of `aliases` as their aliases. -/
def suggestionsFor (words aliases : Datum) :
    Except Failure (List (Except Failure (List String))) := runAlone do
  let aliases ← HubM.conclude (Failure.ofMismatch aliases.items?)
  let commands ← aliases.mapM fun aliases => do
    let aliases ← HubM.aliasesOf aliases
    let command ← HubM.build (Command.make "c")
    aliases.foldlM HubM.withAlias command
  let words ← HubM.conclude (Failure.ofMismatch words.items?)
  return words.map (suggested (commands.map (·.toSignature)))

/-- The options of each root slot in one phrase, or why there are none. -/
def enumerated : Grammar → List (Except Failure String)
  | .nil => []
  | .cons _ slot children rest => Grammar.enumerateOptions slot children :: enumerated rest

/-- A grammar in bracket notation, and the options of its root slots. -/
def rendered (sketch : ArgumentsSketch) :
    Except Failure (String × List (Except Failure String)) := runAlone do
  let roots ← HubM.rootsOf (← HubM.draftArguments sketch)
  let ids ← roots.mapM fun root =>
    HubM.require (.noAttribute root.typeName "enum") root.slot?
  let grammar ← HubM.grammar ids
  return (grammar.render, enumerated grammar)

/-- The usage line and the help line of a command under an alias and a marker.
Where the two have a sum that is no text, so may be the usage line. -/
def usageLines (sketch : CommandSketch) (called marker : Datum) :
    Except Failure (Datum × String) := runAlone do
  let command ← HubM.command (← HubM.construct sketch)
  let usage ← HubM.usageOf command (.datum called) (.datum marker)
  let help ← HubM.helpOf command (.datum called) (.datum marker)
  return (usage.datum?.getD .null, help)

/-- The codes of faults with what a host shows for them. -/
def codeTexts (sketch : ThemeSketch) : Except Failure (List (FaultCode × String)) := do
  let theme ← sketch.theme
  return FaultCode.all.map fun code => (code, theme.codeText code)

/-- What is to be reported. -/
inductive Candidate where
  /-- An error that is made of a message and details; the message of a fault must
  be a text. -/
  | error (kind : RaiseKind) (message : Datum) (options : Ledger String DetailSketch)
  /-- Plain data, which is no fault. -/
  | datum (d : Datum)

/-- What has been made to be reported. -/
inductive Made where
  /-- A fault. -/
  | fault (f : Fault)
  /-- Something else, by the name of its type. -/
  | other (type : String)

/-- A question about how something is reported. -/
structure FaultInquiry where
  /-- How the host wants faults to be reported. -/
  theme : ThemeSketch
  /-- What is to be reported. -/
  candidate : Candidate
  /-- Details of a copy to be made. -/
  replacement : Option (Ledger String DetailSketch) := none
  /-- Details with which it is triggered, and the sink among them. -/
  trigger : Option (Ledger String DetailSketch × Option SinkSketch) := none

/-- A fault with its report. -/
structure Reported where
  /-- The fault. -/
  fault : Fault
  /-- How it is reported. -/
  report : Report

/-- What comes of something that was to be reported. -/
structure FaultAnswer where
  /-- The fault; there is none if it was something else. -/
  made : Option Reported
  /-- The copy with other details. -/
  copy : Option Reported
  /-- What was observed when it was triggered. -/
  events : Option (List Event)

/-- Makes what is to be reported. An error that is no fault has no details. -/
def Candidate.make : Candidate → Except Failure Made
  | datum d => return .other d.typeName
  | error kind message options => do
    let options ← detailsOf options
    match kind, message with
    | .fault kind, .text message => return .fault ⟨kind, message, options⟩
    | .fault kind, _ => throw (.mismatch (.faultMessage kind.name))
    | .error e, _ =>
      if options.isEmpty then return .other e.name
      else throw (.mismatch (.noDetails e.name))
    | .unknown, _ => throw .unknownKey

/-- The fault that was made, if it is one. -/
def Made.fault? : Made → Option Fault
  | fault f => some f
  | other _ => none

/-- A fault with its report, if it has one. -/
def reportedBy (theme : Theme) (fault : Fault) : Except Failure Reported := do
  return ⟨fault, ← Failure.ofMismatch (fault.report theme)⟩

/-- A copy with more details. None of them may go by the name `self`, which is
taken by the fault itself. -/
def Made.amended (made : Made) (sketches : Ledger String DetailSketch) : Except Failure Fault := do
  let options ← detailsOf sketches
  match made with
  | fault f =>
    if options.hasKey "self" then
      throw (.mismatch (.repeatedName "ParseError.__replace__" "self"))
    return f.withOptions options
  | other type => throw (.mismatch (.noTypeAttribute type "__replace__"))

/-- What is observed when a fault is triggered. -/
def triggered (theme : Theme) (fault : Fault) (sink : Option SinkSketch) :
    Except Failure (List Event) :=
  match (HubM.deliver HubM.parse (sink.map (·.callable.sink)) fault).run { theme } with
  | .ok _ hub => .ok hub.events
  | .error failure _ => .error failure

/-- What is observed when something is triggered with more details; only a fault
can be. -/
def Made.trigger (made : Made) (theme : Theme) (sketches : Ledger String DetailSketch)
    (sink : Option SinkSketch) : Except Failure (List Event) := do
  match made with
  | fault _ => triggered theme (← made.amended sketches) sink
  | other _ =>
    let _ ← detailsOf sketches
    throw (.mismatch .reported)

/-- Makes what is asked for and reports it, then its copy, and triggers it
last. -/
def FaultInquiry.answer (inquiry : FaultInquiry) : Except Failure FaultAnswer := do
  let theme ← inquiry.theme.theme
  let made ← inquiry.candidate.make
  let report ← made.fault?.mapM (reportedBy theme)
  let copy ← inquiry.replacement.mapM fun sketches => do
    reportedBy theme (← made.amended sketches)
  let events ← inquiry.trigger.mapM fun (sketches, sink) => made.trigger theme sketches sink
  return ⟨report, copy, events⟩

end Chatline.Script
