import Chatline.Callable
import Chatline.Script.Sketch
import Chatline.Text.Blank
/-!
# Callbacks of a script

Each sketched callback as something that can be called, and each sketched
predicate as one that may fail.
-/

namespace Chatline.Script

open Callable (misfit misfitSuggester)

/-- Ends with a failure if there is one, and otherwise goes on. -/
def raising {α : Type} (raises : Option RaiseSketch) (otherwise : Routine α) : Routine α :=
  match raises with
  | some sketch => .fail sketch.failure
  | none => otherwise

/-- The item of a sequence after so many calls; the last one stays. -/
def itemAfter (items : List Datum) (calls : Nat) : Datum :=
  match items[calls]? with
  | some item => item
  | none => items.getLast?.getD .null

/-- What a sketched precondition does: it wants something with a name. Its calls
are counted by the counter. -/
def PreconditionSketch.call (sketch : PreconditionSketch) (counter : Nat) (subject : Subject) :
    Routine Datum :=
  match subject.name? with
  | some name =>
    .note (.precondition name) <| raising sketch.raises <|
      if sketch.sequence.isEmpty then .done sketch.returns
      else .draw counter fun calls => .done (itemAfter sketch.sequence calls)
  | none => misfit (.noAttribute subject.typeName "name")

/-- A sketched precondition as a callable. -/
def PreconditionSketch.callable (sketch : PreconditionSketch) (counter : Nat) : Callable where
  call := sketch.call counter
  suggester := misfitSuggester .callbackOperands

/-- Dispatches a line and notes the result; what the line fails with is passed
on. -/
def NestedLine.before {α : Type} (nested : NestedLine) (next : Routine α) : Routine α :=
  .look fun scene =>
    match Ledger.value? nested.registry scene.names, nested.line with
    | some (.registry id), .text line => .dispatch id line nested.level fun
      | .ok result => .note (.nested result) next
      | .error failure => .fail failure
    | some (.registry _), _ => misfit .dispatchedLine
    | some handle, _ => misfit (.noAttribute handle.typeName "parse")
    | none, _ => .fail (.unbound nested.registry)

/-- What an action does first: it dispatches its line, if it has one. -/
def ActionSketch.begin {α : Type} (sketch : ActionSketch) (next : Routine α) : Routine α :=
  match sketch.dispatches with
  | some nested => nested.before next
  | none => next

/-- Why a subject cannot be read as bindings: it has no length, or no entries, or
no list of what is bound. -/
def notBindings (subject : Subject) : Mismatch :=
  match subject with
  | .datum (.map _) => .noAttribute subject.typeName "arguments"
  | .datum (.text _) | .datum (.list _) | .datum (.tuple _) | .datum (.set _) | .list =>
    .noAttribute subject.typeName "items"
  | _ => .noLength subject.typeName

/-- What a sketched action does: it wants bindings, and looks at them after it
has dispatched its line. -/
def ActionSketch.call (sketch : ActionSketch) (subject : Subject) : Routine Datum :=
  sketch.begin <|
    match subject with
    | .bindings b => .look fun scene =>
      .note (.action sketch.label (b.view scene.slots sketch.keys)) <|
        raising sketch.raises (.done sketch.returns)
    | subject => misfit (notBindings subject)

/-- A sketched action as a callable. -/
def ActionSketch.callable (sketch : ActionSketch) : Callable where
  call := sketch.call
  suggester := misfitSuggester .callbackOperands

/-- The suggester of a sketch. -/
def SuggesterSketch.suggester (sketch : SuggesterSketch) : Suggester := .custom fun word commands =>
  .note (.suggester word (commands.map (·.name))) <| raising sketch.raises <|
    .done (if sketch.echo then .list [word] else sketch.returns)

/-- A sketched suggester as a callable: it wants a word and commands. -/
def SuggesterSketch.callable (sketch : SuggesterSketch) : Callable where
  call _ := misfit .callbackOperands
  suggester := sketch.suggester

/-- What a sketched error sink does: it wants a fault, whose kind has a code. -/
def SinkSketch.call (sketch : SinkSketch) : Subject → Routine Datum
  | .fault f => .note (.fault sketch.label f) <| raising sketch.raises (.done .null)
  | subject => misfit (.noTypeAttribute subject.typeName "code")

/-- A sketched error sink as a callable. -/
def SinkSketch.callable (sketch : SinkSketch) : Callable where
  call := sketch.call
  suggester := misfitSuggester .callbackOperands

/-- Whether a text occurs somewhere in another. -/
def occursIn (part : List Char) : List Char → Bool
  | [] => part.isEmpty
  | c :: cs => part.isPrefixOf (c :: cs) || occursIn part cs

/-- Whether a text has a length of `length` or more, which must be a number. -/
def isLongEnough (length : Datum) (s : String) : Except Failure Bool :=
  match length.isAtMost? s.length with
  | some reached => .ok reached
  | none => .error (.mismatch (.notComparable ">=" "int" length.typeName))

/-- Whether a text contains `part`, which must be a text. -/
def holds (part : Datum) (s : String) : Except Failure Bool :=
  match part with
  | .text part => .ok (occursIn part.toList s.toList)
  | part => .error (.mismatch (.soughtPart part.typeName))

/-- The predicate of a sketch, unless it cannot be called. -/
def PredicateSketch.predicate? : PredicateSketch → Option (String → Except Failure Bool)
  | minLength length => some (isLongEnough length)
  | contains part => some (holds part)
  | equals whole => some fun s => .ok ((Datum.text s).same whole)
  | const d => some fun _ => .ok d.truthy
  | raises message => some fun _ => .error (.raised .host message.display)
  | datum _ => none

/-- The rule of a sketch. A decorator wants a label that is not blank, and then
something to call; otherwise the label must be a text and the predicate something
to call. -/
def makeRule (label : Datum) (predicate : PredicateSketch) (decorator : Bool) :
    Except Mismatch Rule :=
  if decorator then
    match label with
    | .text label =>
      if Text.stripped label = "" then .error .decoratorLabel
      else match predicate.predicate? with
        | some accepts => .ok (.ofPredicate label accepts)
        | none => .error .decoratedPredicate
    | _ => .error .decoratorLabel
  else
    match label, predicate.predicate? with
    | .text label, some accepts => .ok (.ofPredicate label accepts)
    | .text _, none => .error .rulePredicate
    | _, _ => .error .ruleLabel

end Chatline.Script
