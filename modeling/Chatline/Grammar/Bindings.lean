import Chatline.Grammar.Match
import Chatline.Ledger
/-!
# Bindings

Bindings are what an action receives: a snapshot of the values that a match
gave, by path, in the order they were given. Behind them stand the values of
all other slots, which a look-up falls back on: first those below the bound
slots, then the rest of the grammar. A look-up by a bare name ignores letter
case and takes the first path that ends in the name.
-/

namespace Chatline

/-- The names that lead from the root of a grammar to a slot. -/
abbrev Path := List String

/-- A snapshot of the values of a grammar. -/
structure Bindings where
  /-- The values of the bound slots. -/
  values : Ledger Path String := []
  /-- The values of slots that were not bound. -/
  descendants : Ledger Path String := []
  /-- The bound slots themselves, in order. -/
  arguments : List SlotId := []
deriving Repr, DecidableEq

namespace Bindings

/-- The present value of a slot. -/
def current (store : List Slot) (id : SlotId) : String := (store[id]?.map (·.value)).getD ""

/-- The values of the slots that a slot owns, by paths that start with the one
given. -/
def below (store : List Slot) (path : Path) (id : SlotId) : Ledger Path String :=
  (Grammar.layOut store ((store[id]?.map (·.children)).getD [])).values path

/-- The present values of some slots, each under the path it was bound at, over
those of a grammar. -/
def snapshot (store : List Slot) (bound : List (Path × SlotId)) (grammar : List SlotId) :
    Bindings :=
  let values := bound.foldl (fun ledger (path, id) => Ledger.put ledger path (current store id)) []
  let nested := (bound.map fun (path, id) => below store path id).flatten
  let others := (Grammar.layOut store grammar).values []
  { values
    descendants :=
      (Ledger.putAllNew [] (nested ++ others)).filter fun entry => !Ledger.hasKey entry.1 values
    arguments := bound.map (·.2) }

/-- The value at a path. -/
def atPath? (bindings : Bindings) (path : Path) : Option String :=
  match bindings.values.value? path with
  | some value => some value
  | none => bindings.descendants.value? path

/-- Whether a path ends in a name, up to letter case. -/
def endsIn (name : String) (path : Path) : Bool :=
  match path.getLast? with
  | some last => Text.sameFolded last name
  | none => false

/-- The value of the first path that ends in a name, bound slots first. -/
def named? (bindings : Bindings) (name : String) : Option String :=
  match bindings.values.find? fun entry => endsIn name entry.1 with
  | some entry => some entry.2
  | none => (bindings.descendants.find? fun entry => endsIn name entry.1).map (·.2)

/-- The texts that a path is made of; a path that holds anything else leads
nowhere. -/
def pathOf? : List Datum → Option Path
  | [] => some []
  | .text name :: rest => (pathOf? rest).map (name :: ·)
  | _ :: _ => none

/-- The value of a key: a text is a bare name and a sequence is a path. A path
with a part that can change is no key. -/
def lookup (bindings : Bindings) : Datum → Except Failure String
  | .text name => Option.elim (bindings.named? name) (.error .unknownKey) .ok
  | .tuple items =>
    match Datum.changeableAmong? items with
    | some type => .error (.mismatch (.unhashable type))
    | none => Option.elim ((pathOf? items).bind bindings.atPath?) (.error .unknownKey) .ok
  | key => .error (.mismatch (.bindingsKey key.typeName))

/-- A path as one text. -/
def pathText (path : Path) : String := "/".intercalate path

/-- The bound values by the texts of their paths. -/
def rows (bindings : Bindings) : List (String × String) :=
  bindings.values.map fun (path, value) => (pathText path, value)

/-- The unambiguous form of bindings. -/
def shown (bindings : Bindings) : String :=
  Grammar.object "bindings" (bindings.rows.map fun (path, value) => (path, Text.quoted value))

end Bindings

/-- Bindings as an observer sees them at some moment. -/
structure BindingsView where
  /-- The bound values, by path. -/
  items : Ledger Path String
  /-- The names of the bound slots with their values at the moment. -/
  arguments : List (String × String)
  /-- The unambiguous form. -/
  shown : String
  /-- The answers to look-ups that were asked for. -/
  answers : List (Except Failure String)

/-- What an observer sees of bindings who looks up some keys. -/
def Bindings.view (bindings : Bindings) (store : List Slot) (keys : List Datum) :
    BindingsView where
  items := bindings.values
  arguments := bindings.arguments.map fun id =>
    ((store[id]?.map (·.name)).getD "", current store id)
  shown := bindings.shown
  answers := keys.map bindings.lookup

end Chatline
