import Chatline.Script.Answer
import Chatline.Script.Callback
import Chatline.Hub.Builder
/-!
# Operands

An operand is a handle that a host passes to a builder call. Sketches become
operands here, and operands are looked at for what a call wants; each call that
wants something else says so in its own words.
-/

namespace Chatline.HubM

open Script

/-- An operand that has to be of some type, or the complaint that it is not. -/
def require {α : Type} (m : Mismatch) : Option α → HubM α
  | some a => return a
  | none => mismatch m

/-- The callable that an operand has to be, or the complaint that it is none. -/
def requireCallable (m : Mismatch) (operand : Handle) : HubM Callable := do
  require m (← callable? operand)

/-- The rule of a sketch, as an operand. -/
def ruleOf : RuleSketch → HubM Handle
  | .given rule => newCallable (.ofRule rule)
  | .unknown => throw .unknownKey
  | .datum d => return .datum d
  | .made label predicate decorator => do
    let rule ← conclude (Failure.ofMismatch (makeRule label predicate decorator))
    newCallable (.ofRule rule)

/-- A supplied callback, as an operand. -/
def suppliedAs {α : Type} (callable : α → HubM Callable) : Supplied α → HubM Handle
  | .datum d => return .datum d
  | .callback sketch => do newCallable (← callable sketch)

/-- The precondition of a sketch, as an operand. -/
def preconditionOf : Supplied PreconditionSketch → HubM Handle :=
  suppliedAs fun sketch => do return sketch.callable (← newCounter)

/-- The action of a sketch, as an operand. -/
def actionOf : Supplied ActionSketch → HubM Handle :=
  suppliedAs fun sketch => return sketch.callable

/-- The error sink of a sketch, as an operand. -/
def sinkOf : Supplied SinkSketch → HubM Handle :=
  suppliedAs fun sketch => return sketch.callable

/-- The suggester of a choice, as an operand. -/
def suggesterOf : SuggesterChoice → HubM Handle
  | .affix => newCallable .affix
  | .supplied supplied => suppliedAs (fun sketch => return sketch.callable) supplied

/-- Gives a slot a rule, if the operand is one. -/
def setValidator (id : SlotId) (operand : Handle) : HubM Unit := do
  let rule ← require .validator (← rule? operand)
  buildSlot id fun slot => .ok (slot.setValidator rule)

/-- Gives a slot a default: the form of the operand in a sentence. -/
def setDefault (id : SlotId) (operand : Handle) : HubM Unit := do
  let value ← display operand
  changeSlot id (·.setDefault value)

/-- Gives a slot a nested slot, if the operand is a slot. -/
def addNestedOperand (id : SlotId) (operand : Handle) : HubM Unit := do
  addNested id (← require .nestedArgument operand.slot?)

/-- Gives an enum an option, if the operand is a slot. -/
def addOptionOperand (id : SlotId) (operand : Handle) : HubM Unit := do
  addOption id (← require .option operand.slot?)

mutual

/-- Builds an argument. The name given by `as?` stays when a later call is
refused. -/
def draft : Blueprint → HubM Handle
  | .ref name => find name
  | .datum d => return .datum d
  | .make name optional as? isEnum rule earlyDefault arguments options default => do
    let name ← require .argumentName name.text?
    let id ← newSlot (← build (Slot.make name optional.truthy))
    if let some as := as? then HubM.name as (.slot id)
    if isEnum then buildSlot id Slot.makeEnum
    if let some rule := rule then setValidator id (← ruleOf rule)
    if let some value := earlyDefault then setDefault id (.datum value)
    (← draftEach arguments).forM (addNestedOperand id)
    (← draftEach options).forM (addOptionOperand id)
    if let some value := default then setDefault id (.datum value)
    return .slot id

/-- Builds arguments one after the other, if there is something to go through. -/
def draftEach : Blueprints → HubM (List Handle)
  | .each blueprints => draftAll blueprints
  | .datum d => mismatch (.notIterable d.typeName)

/-- Builds each of some arguments. -/
def draftAll : List Blueprint → HubM (List Handle)
  | [] => return []
  | blueprint :: blueprints => do
    let operand ← draft blueprint
    return operand :: (← draftAll blueprints)

end

mutual

/-- The operand of a term. -/
def evaluate : Term → HubM Handle
  | .ref name => find name
  | .datum d => return .datum d
  | .argument blueprint => draft blueprint
  | .list terms => do return .ofList (← evaluateAll terms)
  | .rule sketch => ruleOf sketch
  | .action supplied => actionOf supplied
  | .precondition supplied => preconditionOf supplied
  | .suggester choice => suggesterOf choice
  | .sink supplied => sinkOf supplied

/-- The operands of some terms, one after the other. -/
def evaluateAll : List Term → HubM (List Handle)
  | [] => return []
  | term :: terms => do
    let operand ← evaluate term
    return operand :: (← evaluateAll terms)

end

end Chatline.HubM
