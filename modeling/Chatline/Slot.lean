import Chatline.Rule
/-!
# Slots

A slot is one place for a word in the grammar of a command. It is required,
optional or an enum, may have a default, has a rule, and may own further
slots: the options of an enum, or else the nested slots that are read once the
slot is filled. While a line is matched the slot also holds the value it was
given.

Slots are shared: a slot is known by its number, and the same slot may stand
in several grammars. The builder operations here are on a single slot; each
gives the changed slot or the reason why it was refused.
-/

namespace Chatline

/-- The number that a slot is known by. -/
abbrev SlotId := Nat

/-- One place for a word. -/
structure Slot where
  /-- The name, which for an option is also the word that chooses it. -/
  name : String
  /-- Whether the slot may be left out. -/
  optional : Bool := false
  /-- Whether the slot takes the name of one of its options. -/
  isEnum : Bool := false
  /-- The value of a slot that was left out. -/
  default : Option String := none
  /-- What every value but the empty one must satisfy. -/
  rule : Rule := Rule.always
  /-- The options of an enum, or else the nested slots. -/
  children : List SlotId := []
  /-- The value at present. -/
  value : String := ""

/-- How a slot is matched. -/
inductive SlotKind where
  /-- The slot must be filled. -/
  | required
  /-- The slot may be left out. -/
  | optional
  /-- The slot takes the name of an option, whether or not it may be left
  out. -/
  | enum
deriving Repr, DecidableEq

namespace Slot

/-- How the slot is matched; an optional enum is matched as an enum. -/
def kind (slot : Slot) : SlotKind :=
  if slot.isEnum then .enum else if slot.optional then .optional else .required

/-- The value of the slot when it is left out. -/
def fallback (slot : Slot) : String := slot.default.getD ""

/-- A new slot; its name must hold something besides blanks. -/
def make (name : String) (optional : Bool) : Except BuildError Slot :=
  let name := Text.stripped name
  if name = "" then .error .blankArgumentName else .ok { name, optional }

/-- The slot as one that may be left out. -/
def makeOptional (slot : Slot) : Slot := { slot with optional := true }

/-- The slot as one that must be filled; one with a default must be an enum. -/
def makeRequired (slot : Slot) : Except BuildError Slot :=
  if slot.default.isSome && !slot.isEnum then .error (.defaultForbidsRequired slot.name)
  else .ok { slot with optional := false }

/-- The slot as an enum; it must not have nested slots. -/
def makeEnum (slot : Slot) : Except BuildError Slot :=
  if !slot.children.isEmpty && !slot.isEnum then .error (.nestedForbidEnum slot.name)
  else .ok { slot with isEnum := true }

/-- The slot with another rule. A default that is there is not looked at. -/
def setValidator (slot : Slot) (rule : Rule) : Slot := { slot with rule }

/-- The slot with a default, which the rule must accept. The slot must be
optional or an enum. The default also becomes the present value if there is
none. -/
def setDefault (slot : Slot) (value : String) : Except Failure Slot :=
  match slot.rule.accepts value with
  | .error failure => .error failure
  | .ok false => .error (.build (.defaultBreaksRule value slot.name))
  | .ok true =>
    if !slot.optional && !slot.isEnum then .error (.build (.requiredForbidsDefault slot.name))
    else .ok { slot with
      default := some value
      value := if slot.value = "" then value else slot.value }

/-- The fault of a word that does not satisfy the rule of the slot. -/
def refusal (slot : Slot) (word : String) : Fault where
  kind := .coded .invalidArgument
  message :=
    "Argument '" ++ slot.name ++ "' is invalid. Must be a valid " ++ slot.rule.errorLabel ++ "."
  options :=
    [("argument", .named slot.name), ("input", .text word), ("rule", .rule slot.rule.label)]

/-- The value that a word gives the slot: the word itself if the rule accepts
it, and the fallback for the empty word. -/
def read (slot : Slot) (word : String) : Except Failure String :=
  if word = "" then .ok slot.fallback
  else match slot.rule.accepts word with
    | .error failure => .error failure
    | .ok false => .error (.fault (slot.refusal word))
    | .ok true => .ok word

/-- The slot with the value that a word gives it. -/
def bind (slot : Slot) (word : String) : Except Failure Slot :=
  (slot.read word).map fun value => { slot with value }

/-- The slot with its fallback as its value. -/
def reset (slot : Slot) : Slot := { slot with value := slot.fallback }

/-- Refuses a required slot after an optional one. -/
def checkOrder (owner : Owner) (siblings : List Slot) (candidate : Slot) :
    Except BuildError Unit :=
  if !candidate.optional && siblings.any (·.optional) then
    .error (.requiredAfterOptional owner candidate.name)
  else .ok ()

/-- The slot with one more nested slot; `siblings` are the slots it owns. -/
def addNested (slot : Slot) (siblings : List Slot) (id : SlotId) (nested : Slot) :
    Except BuildError Slot :=
  if slot.isEnum then .error (.enumForbidsNested slot.name)
  else do
    checkOrder (.argument slot.name) siblings nested
    .ok { slot with children := slot.children ++ [id] }

/-- The slot with the mark of an enum. -/
def marked (slot : Slot) : Slot := { slot with isEnum := true }

/-- The slot as an enum with one more option; `siblings` are the slots it owns.
The slot must not have nested slots. -/
def addOption (slot : Slot) (siblings : List Slot) (id : SlotId) (option : Slot) :
    Except BuildError Slot :=
  if !slot.children.isEmpty && !slot.isEnum then .error (.nestedForbidOptions slot.name)
  else do
    checkOrder (.argument slot.name) siblings option
    .ok { slot with isEnum := true, children := slot.children ++ [id] }

end Slot

end Chatline
