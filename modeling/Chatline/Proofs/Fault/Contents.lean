import Chatline.Grammar.Match
import Chatline.Registry
import Chatline.Proofs.Ledger
/-!
# What faults tell

Whoever is handed a fault reads its kind and its sentence, and looks up details by name.
`Fault.Tells` says what is found there, and that no other detail is. Here this is said of the
faults that a dispatched line may come to; a registry that reports one of them adds how it is
to be reported (`Registry.tells_reported`).
-/

namespace Chatline

namespace Fault

/-- **What a fault tells**: its kind, its sentence and its details. -/
structure Tells (fault : Fault) (kind : FaultKind) (message : String)
    (details : Ledger String Detail) : Prop where
  /-- It is of this kind. -/
  kind : fault.kind = kind
  /-- This is its sentence. -/
  message : fault.message = message
  /-- These details are found under their names, and no others. -/
  details : ∀ name detail, fault.option? name = some detail ↔ (name, detail) ∈ details

variable {fault : Fault}

/-- A fault tells what it is made of, if no name is there twice. -/
theorem tells_self (h : (fault.options.map Prod.fst).Nodup) :
    fault.Tells fault.kind fault.message fault.options where
  kind := rfl
  message := rfl
  details _ _ := Ledger.value?_eq_some_iff h

end Fault

/-! ## Faults of a match -/

section Matching

variable {slot : Slot} {children : Grammar} {text usage : String}

/-- **A slot that refuses a text** is named, with the text and the rule. -/
theorem Slot.tells_refusal :
    (slot.refusal text).Tells (.coded .invalidArgument)
      ("Argument '" ++ slot.name ++ "' is invalid. Must be a valid " ++ slot.rule.errorLabel ++ ".")
      [("argument", .named slot.name), ("input", .text text), ("rule", .rule slot.rule.label)] := by
  have hnames : ["argument", "input", "rule"].Nodup := by decide
  exact Fault.tells_self hnames

/-- **A slot that is missing** is named, with the usage line. -/
theorem Grammar.tells_missing (h : slot.isEnum = false) :
    (missing usage slot children).Tells (.coded .missingArgument)
      ("Invalid arguments, " ++ ("'" ++ slot.name ++ "'") ++ " required. Usage: " ++ usage)
      [("argument", .named slot.name), ("usage", .text usage)] := by
  have hnames : ["argument", "usage"].Nodup := by decide
  have hword : (if slot.isEnum then optionPhrase slot children else "'" ++ slot.name ++ "'") =
      "'" ++ slot.name ++ "'" := if_neg (by rw [h]; exact Bool.false_ne_true)
  rw [← hword]
  exact Fault.tells_self hnames

end Matching

/-! ## Faults that a registry reports -/

/-- **What is handed over of a word that calls nothing**, and of what is suggested for it. -/
inductive Announced (registry : Registry) (called : String) : List Datum → List Fault → Prop
  /-- Nothing is suggested. -/
  | alone {unknown : Fault} :
      unknown.Tells (.coded .unknownCommand) ("Command '" ++ called ++ "' not found.")
        ([("input", .text called)] ++ registry.faultOptions) →
      Announced registry called [] [unknown]
  /-- Something is suggested, and the hint at it comes second. -/
  | hinted {unknown hint : Fault} {suggestions : List Datum} : suggestions ≠ [] →
      unknown.Tells (.coded .unknownCommand) ("Command '" ++ called ++ "' not found.")
        ([("input", .text called)] ++ registry.faultOptions) →
      hint.Tells (.coded .relatedCommands)
        ("Did you mean: " ++
          Text.alternatives (suggestions.map fun s => "'" ++ s.display ++ "'") ++ "?")
        ([("input", .text called), ("suggestions", .datum (.tuple suggestions))] ++
          registry.faultOptions) →
      Announced registry called suggestions [unknown, hint]

namespace Registry

variable {registry : Registry} {fault : Fault} {called : String} {suggestions : List Datum}
variable {command : Signature} {level : Datum}

/-- **A fault that is reported** tells what it told before, and how it is to be reported. -/
theorem tells_reported (h : ((fault.options ++ registry.faultOptions).map Prod.fst).Nodup) :
    (fault.withOptions registry.faultOptions).Tells fault.kind fault.message
      (fault.options ++ registry.faultOptions) := by
  have hoptions : (fault.withOptions registry.faultOptions).options =
      fault.options ++ registry.faultOptions := Ledger.putAll_of_nodup h
  rw [← hoptions] at h ⊢
  exact Fault.tells_self h

/-- **Who is denied access** is told the command and the level that he has. -/
theorem tells_denied :
    ((denied command level).withOptions registry.faultOptions).Tells (.coded .permissionDenied)
      ("Command '" ++ command.name ++ "' requires permission level " ++
        toString command.accessLevel ++ ". (Currently only " ++ level.display ++ ")")
      ([("command", .named command.name), ("access_level", .datum level)] ++
        registry.faultOptions) := by
  have hnames : ["command", "access_level", "sink", "colorful", "fancy"].Nodup := by decide
  exact tells_reported hnames

theorem tells_notFound :
    ((notFound called).withOptions registry.faultOptions).Tells (.coded .unknownCommand)
      ("Command '" ++ called ++ "' not found.")
      ([("input", .text called)] ++ registry.faultOptions) := by
  have hnames : ["input", "sink", "colorful", "fancy"].Nodup := by decide
  exact tells_reported hnames

theorem announced_notFound :
    Announced registry called [] [(notFound called).withOptions registry.faultOptions] :=
  .alone tells_notFound

theorem announced_didYouMean (h : suggestions ≠ []) :
    Announced registry called suggestions
      [(notFound called).withOptions registry.faultOptions,
        (didYouMean called suggestions).withOptions registry.faultOptions] := by
  have hnames : ["input", "suggestions", "sink", "colorful", "fancy"].Nodup := by decide
  exact .hinted h tells_notFound (tells_reported hnames)

end Registry

end Chatline
