import Chatline.Event
/-!
# Handles

A handle is whatever a host holds under a name or passes to a call: an object
that it has built, bindings, plain data, something that can be called, or a list
of such. Objects and callables are known by their numbers, so a handle stands
for the object itself and not for a copy of it.
-/

namespace Chatline

/-- The number that a command is known by. -/
abbrev CommandId := Nat

/-- The number that a registry is known by. -/
abbrev RegistryId := Nat

/-- The number that a callable is known by. -/
abbrev CallableId := Nat

/-- A table of commands. -/
structure Table where
  /-- The title. -/
  title : String
  /-- The headings of the columns. -/
  columns : List String
  /-- The cells, row by row. -/
  rows : List (List String)
deriving Repr, DecidableEq

/-- What a host holds. -/
inductive Handle where
  /-- A slot. -/
  | slot (id : SlotId)
  /-- A command. -/
  | command (id : CommandId)
  /-- A registry. -/
  | registry (id : RegistryId)
  /-- Bindings that a match gave. -/
  | bindings (b : Bindings)
  /-- Plain data. -/
  | datum (d : Datum)
  /-- Something that can be called, with the name of its type. -/
  | callable (type : String) (id : CallableId)
  /-- A list that does not hold data alone. -/
  | list (items : List Handle)
  /-- A table of commands. -/
  | table (t : Table)

instance : Inhabited Handle := ⟨.datum .null⟩

namespace Handle

/-- A text as a handle. -/
def text (s : String) : Handle := datum (.text s)

/-- What was not given. -/
def unset : Handle := datum .unset

/-- The name of a handle's type, as messages write it. -/
def typeName : Handle → String
  | slot _ => "Argument"
  | command _ => "Command"
  | registry _ => "Registry"
  | bindings _ => "Bindings"
  | datum d => d.typeName
  | callable type _ => type
  | list _ => "list"
  | table _ => "Table"

/-- The plain data that a handle is. -/
def datum? : Handle → Option Datum
  | datum d => some d
  | _ => none

/-- The text that a handle is. -/
def text? : Handle → Option String
  | datum (.text s) => some s
  | _ => none

/-- The whole number that a handle is; truth values are none. -/
def int? : Handle → Option Int
  | datum (.int n) => some n
  | _ => none

/-- The slot that a handle is. -/
def slot? : Handle → Option SlotId
  | slot id => some id
  | _ => none

/-- The command that a handle is. -/
def command? : Handle → Option CommandId
  | command id => some id
  | _ => none

/-- The items of a handle that is a list. -/
def listItems? : Handle → Option (List Handle)
  | datum (.list items) => some (items.map datum)
  | list items => some items
  | _ => none

/-- A list of handles; it is plain data if all of them are. -/
def ofList (items : List Handle) : Handle :=
  match items.mapM datum? with
  | some data => datum (.list data)
  | none => list items

/-- Whether something was given at all. -/
def isGiven : Handle → Bool
  | datum .unset => false
  | _ => true

/-- Whether a handle counts as true: data and lists as ever, and bindings if
anything is bound. -/
def truthy : Handle → Bool
  | datum d => d.truthy
  | bindings b => !b.values.isEmpty
  | list items => !items.isEmpty
  | _ => true

/-- The items of a handle that can be gone through; bindings have the paths of
what is bound. -/
def items? : Handle → Except Mismatch (List Handle)
  | list items => .ok items
  | datum d => (d.items?).map fun items => items.map datum
  | bindings b => .ok (b.values.map fun (path, _) => datum (.tuple (path.map .text)))
  | handle => .error (.notIterable handle.typeName)

/-- One handle after the other: data is added or joined, and so are lists. -/
def plus (left right : Handle) : Except Mismatch Handle :=
  match left.datum?, right.datum? with
  | some a, some b => (a.plus b).map datum
  | a, _ =>
    match left.listItems?, right.listItems? with
    | some items, some others => .ok (ofList (items ++ others))
    | some _, none => .error (.notJoinable "list" right.typeName)
    | none, _ =>
      match a with
      | some (.text _) => .error (.notJoinable "str" right.typeName)
      | _ => .error (.notAddable left.typeName right.typeName)

/-- Whether two handles are of the same object. -/
def isSame : Handle → Handle → Bool
  | slot a, slot b => a == b
  | command a, command b => a == b
  | registry a, registry b => a == b
  | _, _ => false

end Handle

end Chatline
