import Chatline.Proofs.Hub.Built
import Chatline.Script.Call
/-!
# Looking at operands

The calls of a host look at their operands before they change anything. Programs that
leave the hub as it is are closed under doing one after the other, and to look at an
operand, or to write it out, is such a program.
-/

namespace Chatline.HubM

open Script

variable {α β : Type} {p : HubM α} {k : α → HubM β}

/-- **A program that changes nothing**, whether or not it fails. -/
def Idle (p : HubM α) : Prop := ∀ hub, p.after hub = hub

namespace Idle

theorem keepsSlots (h : Idle p) : KeepsSlots p := fun hub => by rw [h hub]

theorem bind (hp : Idle p) (hk : ∀ a, Idle (k a)) : Idle (p >>= k) := by
  intro hub
  rw [after_bind, hp hub]
  cases p.ended hub with
  | error failure => rfl
  | ok a => exact hk a hub

theorem mapM {f : β → HubM α} (h : ∀ b, Idle (f b)) (items : List β) : Idle (items.mapM f) := by
  induction items with
  | nil => exact fun _ => rfl
  | cons item items ih =>
    rw [List.mapM_cons]
    exact (h item).bind fun _ => ih.bind fun _ _ => rfl

end Idle

theorem idle_pure (a : α) : Idle (pure a : HubM α) := fun _ => rfl

theorem idle_mismatch (m : Mismatch) : Idle (mismatch m : HubM α) := fun _ => rfl

/-- What comes after a refusal is not run. -/
theorem idle_mismatch_bind (m : Mismatch) (k : α → HubM β) : Idle (mismatch m >>= k) := fun _ => rfl

theorem idle_reading (f : Hub → α) : Idle (reading f) := fun _ => rfl

theorem idle_conclude (result : Except Failure α) : Idle (conclude result) := by
  cases result <;> exact fun _ => rfl

theorem idle_require (m : Mismatch) (operand : Option α) : Idle (require m operand) := by
  cases operand <;> exact fun _ => rfl

theorem idle_comparable (operand : Handle) (field : String) : Idle (comparable operand field) :=
  idle_require _ _

theorem idle_itemsOf (operand : Handle) : Idle (itemsOf operand) := idle_conclude _

theorem idle_callable? (operand : Handle) : Idle (callable? operand) := by
  cases operand <;> exact fun _ => rfl

theorem idle_rule? (operand : Handle) : Idle (rule? operand) :=
  (idle_callable? operand).bind fun _ => idle_pure _

/-! ## Writing an operand out -/

theorem idle_shownCommands (registry : Registry) : Idle (shownCommands registry) := by
  have hcommand : ∀ command, Idle (shownCommand command) := fun command =>
    (idle_reading fun hub => Grammar.layOut hub.slots command.arguments).bind fun _ => idle_pure _
  have hcommands : Idle (commandsOf registry) :=
    idle_reading fun hub => registry.commands.filterMap (hub.commands[·]?)
  refine hcommands.bind fun commands => (Idle.mapM hcommand commands).bind fun shown => ?_
  split <;> exact idle_pure _

/-- Plain data, what can be called, lists and tables have no fields, but for rules. -/
theorem idle_ruleFields (handle : Handle) :
    Idle (do
      match ← rule? handle with
      | some rule => return [("label", Text.quoted rule.label)]
      | none => mismatch (.noAttribute handle.typeName "__rich_repr__") :
        HubM (List (String × String))) := by
  refine (idle_rule? handle).bind fun rule => ?_
  cases rule with
  | none => exact idle_mismatch _
  | some rule => exact idle_pure _

theorem idle_fieldsOf (handle : Handle) : Idle (fieldsOf handle) := by
  cases handle with
  | slot id => exact fun _ => rfl
  | command id => exact fun _ => rfl
  | bindings b => exact idle_pure _
  | registry id =>
    refine (idle_reading (·.registryAt id)).bind fun registry => ?_
    exact (idle_shownCommands registry).bind fun _ => idle_pure _
  | datum d => exact idle_ruleFields _
  | callable type id => exact idle_ruleFields _
  | list items => exact idle_ruleFields _
  | table t => exact idle_ruleFields _

mutual

theorem idle_shown : (handle : Handle) → Idle (shown handle)
  | .slot _ => (idle_fieldsOf _).bind fun _ => idle_pure _
  | .command _ => (idle_fieldsOf _).bind fun _ => idle_pure _
  | .registry _ => (idle_fieldsOf _).bind fun _ => idle_pure _
  | .bindings _ => idle_pure _
  | .datum _ => idle_pure _
  | .callable _ _ => (idle_callable? _).bind fun _ => idle_pure _
  | .list items => (idle_shownAll items).bind fun _ => idle_pure _
  | .table _ => idle_pure _

theorem idle_shownAll : (handles : List Handle) → Idle (shownAll handles)
  | [] => idle_pure _
  | handle :: handles =>
    (idle_shown handle).bind fun _ => (idle_shownAll handles).bind fun _ => idle_pure _

end

/-- **Writing an operand out** changes nothing. -/
theorem idle_display (operand : Handle) : Idle (display operand) := by
  rw [display]
  split
  · exact idle_pure _
  · exact idle_shown operand

end Chatline.HubM
