import Chatline.Script.Method
/-!
# Parameters and operands

A call takes its operands by position or by name. Its parameters say which of
the two they can be given by; the receiver is the parameter at position zero.
`Operands.misnamed?` is the reason why operands cannot be given as they are.
-/

namespace Chatline.Script

/-- How a parameter is given its operand. -/
inductive Passing where
  /-- By position alone. -/
  | byPosition
  /-- By name alone. -/
  | byName
  /-- By name or at this position. -/
  | either (position : Nat)
deriving Repr, DecidableEq

namespace Method

/-- The parameters of a call with one operand, which like the receiver is given
by position. -/
def placed (name : String) : List (String × Passing) := [("self", .byPosition), (name, .byPosition)]

/-- The parameters of a call with a receiver and some parameters that can be
given by name, in their order. -/
def named (names : List String) : List (String × Passing) :=
  ("self" :: names).zipIdx.map fun (name, position) => (name, .either position)

/-- The parameters of a call on a handle. -/
def parameters : Handle → Method → List (String × Passing)
  | .slot _, addArgument | .command _, addArgument => placed "argument"
  | .slot _, addArguments | .command _, addArguments => placed "arguments"
  | .slot _, addOption => placed "option"
  | .slot _, setValidator => placed "rule"
  | .slot _, setDefault | .slot _, isValid => placed "value"
  | .slot _, option => placed "token"
  | .slot _, bind => placed "raw"
  | .slot _, find | .command _, find => placed "name"
  | .command _, setDescription => placed "description"
  | .command _, restrictAccess => placed "level"
  | .command _, setAction => placed "action"
  | .command _, setPrecondition => placed "precondition"
  | .command _, inferArguments => placed "text"
  | .command _, execute => placed "bindings" ++ [("checked", .byName)]
  | .command _, usage | .command _, help => named ["alias", "prefix"]
  | .registry _, useMarker => placed "prefix"
  | .registry _, useSuggester => placed "suggester"
  | .registry _, onError => placed "callback"
  | .registry _, addCommand | .registry _, usage => placed "command"
  | .registry _, resolve => placed "alias"
  | .registry _, suggest => placed "input"
  | .registry _, help | .registry _, table => named ["access_level"]
  | _, _ => named []

end Method

/-- The operands of a call. -/
structure Operands where
  /-- The operands by position. -/
  items : List Handle := []
  /-- The operands by name. -/
  named : Ledger String Handle := []

namespace Operands

/-- The operand at a position; one that is missing is unset. -/
def get (operands : Operands) (position : Nat) : Handle :=
  (operands.items[position]?).getD .unset

/-- The operand at a position or of a name; one that is missing is unset. -/
def find (operands : Operands) (position : Nat) (name : String) : Handle :=
  match operands.items[position]? with
  | some operand => operand
  | none => (operands.named.value? name).getD .unset

/-- Whether the operand of a name is there and counts as true. -/
def flag (operands : Operands) (name : String) : Bool :=
  ((operands.named.value? name).map Handle.truthy).getD false

/-- The parameters that want their operands by position and are given them by
name. -/
def misplaced (operands : Operands) (parameters : List (String × Passing)) : List String :=
  (parameters.filter fun (name, passing) =>
    passing == .byPosition && operands.named.hasKey name).map (·.1)

/-- Why operands of a call cannot be given by their names: a name is none of its
parameters, or wants its operand by position, or is given by its position as
well. -/
def misnamed? (operands : Operands) (call : String) (parameters : List (String × Passing)) :
    Option Mismatch :=
  operands.named.findSome? fun (name, _) =>
    match parameters.lookup name with
    | some .byName => none
    | some (.either position) =>
      if position ≤ operands.items.length then some (.repeatedName call name) else none
    | _ =>
      match operands.misplaced parameters with
      | [] => some (.unexpectedName call name)
      | names => some (.misplacedNames call names)

end Operands

end Chatline.Script
