import Chatline.Script.Construct
import Chatline.Script.Parameter
import Chatline.Hub.Dispatch
/-!
# Calls

The calls that a host makes on an object it has built. The operands are looked
at in the order in which the call needs them.
-/

namespace Chatline.HubM

open Script

/-- A text that a call needs for comparing it with names. -/
def comparable (operand : Handle) (field : String) : HubM String :=
  require (.noAttribute operand.typeName field) operand.text?

/-- What a usage line starts with: the marker, if one was given, and an alias.
What counts as false stands in for no alias. -/
def headOf (first : String) (called marker : Handle) : HubM Handle :=
  let marker := if marker.isGiven then marker else .text ""
  let called := if called.truthy then called else .text first
  conclude (Failure.ofMismatch (marker.plus called))

/-- The usage line of a command under an alias and a marker. A command without
aliases has none, and the grammar is only written if there is any. -/
def usageOf (command : Command) (called marker : Handle) : HubM Handle := do
  match command.aliases with
  | [] => return .text ""
  | first :: _ =>
    let head ← headOf first called marker
    let grammar ← grammar command.arguments
    if grammar.isEmpty then return head
    else return .text (grammar.renderAfter (← display head))

/-- The help line of a command under an alias and a marker. -/
def helpOf (command : Command) (called marker : Handle) : HubM String := do
  return command.help (← display (← usageOf command called marker))

/-- Changes a command as told. -/
def changeCommand (id : CommandId) (change : Command → HubM Command) : HubM Unit := do
  setCommand id (← change (← HubM.command id))

/-- Changes a registry as told. -/
def changeRegistry (id : RegistryId) (change : Registry → HubM Registry) : HubM Unit := do
  setRegistry id (← change (← HubM.registry id))

/-- Whether a caller of a level may see a command. A level that is no number
cannot be compared. -/
def isVisible (level : Handle) (command : Command) : HubM Bool :=
  match level.datum?.bind (·.isAtLeast? command.accessLevel) with
  | some visible => return visible
  | none => mismatch (.notComparable "<=" "int" level.typeName)

/-- The commands of a registry that a caller of a level may see; without a level
all of them. -/
def visibleTo (registry : Registry) (level : Handle) : HubM (List Command) := do
  let commands ← commandsOf registry
  if level.isGiven then commands.filterM (isVisible level) else return commands

/-- The row of a command in a table. -/
def rowOf (registry : Registry) (command : Command) : HubM (List String) := do
  let usage := command.usage (← grammar command.arguments) "" registry.marker
  return [command.name, ", ".intercalate command.aliases, usage, command.description].map
    Styled.printable

/-- Registers a command, if the operand is one. -/
def registerOperand (id : RegistryId) (operand : Handle) : HubM CommandId := do
  let command ← require .registered operand.command?
  register id command
  return command

/-- The slot that was found, if any. -/
def slotOrNone (id : Option SlotId) : Handle := (id.map Handle.slot).getD (.datum .null)

/-- A call on a slot. -/
def callOnSlot (id : SlotId) (operands : Operands) : Method → HubM Handle
  | .makeOptional => do
    buildSlot id fun slot => .ok slot.makeOptional
    return .slot id
  | .makeRequired => do
    buildSlot id Slot.makeRequired
    return .slot id
  | .makeEnum => do
    buildSlot id Slot.makeEnum
    return .slot id
  | .addArgument => do
    addNestedOperand id (operands.get 0)
    return .slot id
  | .addArguments => do
    (← itemsOf (operands.get 0)).forM (addNestedOperand id)
    return .slot id
  | .addOption => do
    addOptionOperand id (operands.get 0)
    return .slot id
  | .addOptions => do
    operands.items.forM (addOptionOperand id)
    return .slot id
  | .setDefault => do
    setDefault id (operands.get 0)
    return .slot id
  | .setValidator => do
    setValidator id (operands.get 0)
    return .slot id
  | .bind => do
    let word ← require .boundValue (operands.get 0).text?
    changeSlot id (·.bind word)
    return .slot id
  | .reset => do
    resetSlots [id]
    return .slot id
  | .option => do
    let word ← comparable (operands.get 0) "casefold"
    let slot ← HubM.slot id
    if slot.isEnum then
      return slotOrNone (((← ownGrammar id).option? word).map (·.1))
    else return .datum .null
  | .find => do
    let name ← comparable (operands.get 0) "casefold"
    return slotOrNone ((← grammar [id]).find? name)
  | .isValid => do
    let word ← require .ruleSubject (operands.get 0).text?
    let slot ← HubM.slot id
    return .datum (.bool (← conclude (slot.rule.accepts word)))
  | method => mismatch (.noAttribute "Argument" method.name)

/-- What an action is run on when it is handed an operand; without one it is run
on empty bindings. -/
def subjectOf : Handle → HubM Subject
  | .slot id => do return .slot (← slot id).name
  | .command id => do return .command (← HubM.command id).toSignature
  | .bindings b => return .bindings b
  | .datum .unset => return .bindings {}
  | .datum d => return .datum d
  | .list _ => return .list
  | handle => return .other handle.typeName

/-- A call on a command. -/
def callOnCommand (id : CommandId) (operands : Operands) : Method → HubM Handle
  | .addAlias => do
    operands.items.forM fun called => changeCommand id (withAlias · called)
    return .command id
  | .setDescription => do
    changeCommand id (withDescription · (operands.get 0))
    return .command id
  | .restrictAccess => do
    changeCommand id (withAccessLevel · (operands.get 0))
    return .command id
  | .setAction => do
    changeCommand id (withAction · (operands.get 0))
    return .command id
  | .setPrecondition => do
    changeCommand id (withPrecondition · (operands.get 0))
    return .command id
  | .addArgument => do
    changeCommand id (withArgument · (operands.get 0))
    return .command id
  | .addArguments => do
    (← itemsOf (operands.get 0)).forM fun argument => changeCommand id (withArgument · argument)
    return .command id
  | .inferArguments => do
    let text ← require .bracketText (operands.get 0).text?
    (← infer text).forM (addArgument id)
    return .command id
  | .check => do return .datum ((← HubM.check parse id).getD .null)
  | .execute => do
    let subject ← subjectOf (operands.get 0)
    return .datum (← execute parse id subject (operands.flag "checked"))
  | .usage => do
    usageOf (← HubM.command id) (operands.find 0 "alias") (operands.find 1 "prefix")
  | .help => do
    return .text (← helpOf (← HubM.command id) (operands.find 0 "alias") (operands.find 1 "prefix"))
  | .validate => do
    validate id
    return .command id
  | .reset => do
    resetCommand id
    return .command id
  | .find => do
    let grammar ← grammar (← HubM.command id).arguments
    if grammar.isEmpty then return .datum .null
    else return slotOrNone (grammar.find? (← comparable (operands.get 0) "casefold"))
  | method => mismatch (.noAttribute "Command" method.name)

/-- A call on a registry. -/
def callOnRegistry (id : RegistryId) (operands : Operands) : Method → HubM Handle
  | .useMarker => do
    changeRegistry id (withMarker · (operands.get 0))
    return .registry id
  | .useSuggester => do
    changeRegistry id (withSuggester · (operands.get 0))
    return .registry id
  | .onError => do
    let operand := operands.get 0
    changeRegistry id (withSink · operand)
    return operand
  | .addCommand => do return .command (← registerOperand id (operands.get 0))
  | .addCommands => do
    operands.items.forM fun operand => do let _ ← registerOperand id operand
    return .registry id
  | .resolve => do
    let called ← comparable (operands.get 0) "lower"
    match ← resolve (← HubM.registry id) called with
    | some command => return .command command
    | none => return .datum .null
  | .suggest => do
    let operand := operands.get 0
    let word ← require (.noAttribute operand.typeName "lower") operand.datum?
    return .datum (.list (← suggest parse (← HubM.registry id) word))
  | .usage => do
    match operands.get 0 with
    | .command command =>
      let command ← HubM.command command
      return .text
        (command.usage (← grammar command.arguments) "" (← HubM.registry id).marker)
    | .registry _ => mismatch (.unexpectedName "Registry.usage" "prefix")
    | operand => mismatch (.noAttribute operand.typeName "usage")
  | .help => do
    let registry ← HubM.registry id
    let lines ← (← visibleTo registry (operands.find 0 "access_level")).mapM fun command => do
      return command.help (command.usage (← grammar command.arguments) "" registry.marker)
    return .datum (.list (lines.map .text))
  | .table => do
    let registry ← HubM.registry id
    let rows ← (← visibleTo registry (operands.find 0 "access_level")).mapM (rowOf registry)
    return .table ⟨"Commands", ["Name", "Aliases", "Usage", "Description"], rows⟩
  | method => mismatch (.noAttribute "Registry" method.name)

/-- Where a text first occurs in another; minus one if it does not. -/
def positionIn (part whole : String) : Int :=
  let ends := (List.range (whole.length + 1)).find? fun start =>
    part.toList.isPrefixOf (whole.toList.drop start)
  (ends.map Int.ofNat).getD (-1)

/-- A call on plain data; a text can be searched for another. -/
def callOnDatum (d : Datum) (operands : Operands) (method : Method) : HubM Handle :=
  match d, method with
  | .text whole, .find => do
    let operand := operands.get 0
    let part ← require (.soughtText operand.typeName) operand.text?
    return .datum (.int (positionIn part whole))
  | d, method => mismatch (.noAttribute d.typeName method.name)

/-- A call on what the host holds, which must have such a call and take the names
of the operands. -/
def callOn (on : Handle) (method : Method) (operands : Operands) : HubM Handle := do
  unless (Method.callsOn on).contains method do
    mismatch (.noAttribute on.typeName method.name)
  if let some m := operands.misnamed? (on.typeName ++ "." ++ method.name)
      (Method.parameters on method) then
    mismatch m
  match on with
  | .slot id => callOnSlot id operands method
  | .command id => callOnCommand id operands method
  | .registry id => callOnRegistry id operands method
  | .datum d => callOnDatum d operands method
  | handle => mismatch (.noAttribute handle.typeName method.name)

end Chatline.HubM
