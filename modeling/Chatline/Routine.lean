import Chatline.Handle
/-!
# Routines

A callback of the host's is a routine: a program that, step by step, asks for
something and goes on with the answer. It can leave a note, look at the slots
and names as they are at the moment, draw from a counter of its own, dispatch
a line, and end with a value or a failure. How the requests are served is said
elsewhere, so a statement about all routines is a statement about every
behaviour that a callback may have.
-/

namespace Chatline

/-- What a callback can look at. -/
structure Scene where
  /-- The slots, by number. -/
  slots : List Slot := []
  /-- What the host holds, by name. -/
  names : Ledger String Handle := []

/-- A program of the host's that ends with a value of type `α`. -/
inductive Routine (α : Type) where
  /-- Ends with a value. -/
  | done (value : α)
  /-- Ends with a failure. -/
  | fail (failure : Failure)
  /-- Leaves a note. -/
  | note (n : Note) (next : Routine α)
  /-- Looks at the scene. -/
  | look (next : Scene → Routine α)
  /-- Draws from a counter: the answer is how often that was done before. -/
  | draw (counter : Nat) (next : Nat → Routine α)
  /-- Dispatches a line for a caller of a level; the answer is how that
  ended. -/
  | dispatch (registry : RegistryId) (line : String) (level : Datum)
      (next : Except Failure Bool → Routine α)

/-- The part of a command that callbacks are shown. -/
structure Signature where
  /-- The name, used in help and messages. -/
  name : String
  /-- The words that call the command, lowered. -/
  aliases : List String := []
  /-- A sentence for the help; empty for none. -/
  description : String := ""
  /-- The least level of a caller. -/
  accessLevel : Int := 0
  /-- The root slots of the grammar. -/
  arguments : List SlotId := []
deriving Repr, DecidableEq

/-- What a callback is called on. The dispatcher hands a precondition its
command, an action its bindings and a sink its fault; a host may hand over
anything. -/
inductive Subject where
  /-- A command. -/
  | command (signature : Signature)
  /-- Bindings that a match gave. -/
  | bindings (b : Bindings)
  /-- A fault. -/
  | fault (f : Fault)
  /-- A slot, by its name. -/
  | slot (name : String)
  /-- Plain data. -/
  | datum (d : Datum)
  /-- A list that does not hold data alone. -/
  | list
  /-- Anything else, by the name of its type. -/
  | other (type : String)

namespace Subject

/-- The name of a subject's type, as messages write it. -/
def typeName : Subject → String
  | command _ => "Command"
  | bindings _ => "Bindings"
  | fault f => f.kind.name
  | slot _ => "Argument"
  | datum d => d.typeName
  | list => "list"
  | other type => type

/-- The name of a subject, if it has one. -/
def name? : Subject → Option String
  | command signature => some signature.name
  | slot name => some name
  | _ => none

end Subject

/-- Asked before a command runs; a result that counts as true is the reason why
it may not. -/
abbrev Precondition := Signature → Routine Datum

/-- What a command does with what it is run on: the bindings of a match. -/
abbrev Action := Subject → Routine Datum

/-- What receives the faults of a registry. What it gives back is of no
account. -/
abbrev Sink := Fault → Routine Datum

end Chatline
