import Chatline.Registry.Suggestion
/-!
# Callables

Whatever can be called may be put in any place where a callback is wanted; what
it is good for shows only when it is called. So a callable says what it does
with anything it may be called on, and fails on what it was not made for.
-/

namespace Chatline

/-- Something that can be called. -/
structure Callable where
  /-- The name of its type, as messages write it. -/
  typeName : String := "function"
  /-- Its unambiguous form. -/
  shown : String := ""
  /-- The rule that it is, if it is one. -/
  rule? : Option Rule := none
  /-- What it does when it is called on one thing. -/
  call : Subject → Routine Datum
  /-- What it does when it is called on a word and commands. -/
  suggester : Suggester

namespace Callable

/-- What a callable does as a precondition. -/
def precondition (callable : Callable) : Precondition :=
  fun signature => callable.call (.command signature)

/-- What a callable does as an action. -/
def action (callable : Callable) : Action := callable.call

/-- What a callable does as an error sink. -/
def sink (callable : Callable) : Sink := fun fault => callable.call (.fault fault)

/-- A routine that fails because of a value of the wrong type. -/
def misfit {α : Type} (m : Mismatch) : Routine α := .fail (.mismatch m)

/-- A suggester that is not made to be one. -/
def misfitSuggester (m : Mismatch) : Suggester := .custom fun _ _ => misfit m

/-- The built-in suggester: it wants a word and commands. -/
def affix : Callable where
  typeName := "AffixSuggester"
  shown := "affix-suggester()"
  call _ := misfit .suggesterOperands
  suggester := .affix

/-- What a rule says of a subject, which must be a text. -/
def judge (rule : Rule) : Subject → Routine Datum
  | .datum (.text s) =>
    match rule.accepts s with
    | .ok verdict => .done (.bool verdict)
    | .error failure => .fail failure
  | _ => misfit .ruleSubject

/-- A rule: it wants a text. -/
def ofRule (rule : Rule) : Callable where
  typeName := "ValidationRule"
  shown := rule.shown
  rule? := some rule
  call := judge rule
  suggester := misfitSuggester .ruleOperands

end Callable

end Chatline
