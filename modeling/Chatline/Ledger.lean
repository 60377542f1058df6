/-!
# Ledgers

A ledger is a table that remembers the order in which its keys were first
entered. Entering a key again either replaces its value in place or leaves it
alone.
-/

namespace Chatline

/-- A table in the order of first entry. -/
abbrev Ledger (κ υ : Type) := List (κ × υ)

namespace Ledger

variable {κ υ : Type} [BEq κ]

/-- The value entered under a key. -/
def value? (key : κ) (ledger : Ledger κ υ) : Option υ :=
  (ledger.find? fun entry => entry.1 == key).map (·.2)

/-- Whether a key has been entered. -/
def hasKey (key : κ) (ledger : Ledger κ υ) : Bool := ledger.any fun entry => entry.1 == key

/-- Enters a value under a key; a key that is there already keeps its place
and gets the new value. -/
def put (ledger : Ledger κ υ) (key : κ) (value : υ) : Ledger κ υ :=
  match ledger with
  | [] => [(key, value)]
  | (k, v) :: rest => if k == key then (key, value) :: rest else (k, v) :: put rest key value

/-- Enters a value under a key unless the key is there already. -/
def putNew (ledger : Ledger κ υ) (key : κ) (value : υ) : Ledger κ υ :=
  if ledger.hasKey key then ledger else ledger ++ [(key, value)]

/-- Enters the entries one by one. -/
def putAll (ledger entries : Ledger κ υ) : Ledger κ υ :=
  entries.foldl (fun ledger entry => put ledger entry.1 entry.2) ledger

/-- Enters the entries whose keys are not there already one by one. -/
def putAllNew (ledger entries : Ledger κ υ) : Ledger κ υ :=
  entries.foldl (fun ledger entry => putNew ledger entry.1 entry.2) ledger

end Ledger

end Chatline
