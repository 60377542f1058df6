import Chatline.Proofs.Script.Operand
/-!
# Calls that leave no trace

A builder call looks at its operands, at the state of the object that it is made on, and
at the siblings of what is added, and may be refused at each of these points. A call for
one change leaves everything as it was if it is refused (`traceless_callOn`): what comes
before the change looks but does not touch, and what comes after it does not fail.
-/

namespace Chatline.HubM

open Script

variable {α β : Type} {p : HubM α} {k : α → HubM β} {hub hub' : Hub} {a : α}
variable {failure : Failure} {id : Nat} {operands : Operands} {method : Method}

/-! ## Programs that leave no trace -/

/-- **A program that leaves no trace if it fails.** -/
def Traceless (p : HubM α) : Prop :=
  ∀ hub failure hub', p hub = .error failure hub' → hub' = hub

/-- A program that does not fail. -/
def Unfailing (p : HubM α) : Prop := ∀ hub, ∃ a hub', p hub = .ok a hub'

theorem Idle.eq_of_ok (h : Idle p) (hp : p hub = .ok a hub') : hub' = hub := by
  have hafter := h hub
  rwa [after, hp] at hafter

theorem Idle.traceless (h : Idle p) : Traceless p := by
  intro hub failure hub' hp
  have hafter := h hub
  rwa [after, hp] at hafter

theorem Unfailing.traceless (h : Unfailing p) : Traceless p := by
  intro hub failure hub' hp
  obtain ⟨a, other, hok⟩ := h hub
  rw [hok] at hp
  cases hp

/-- Checks may come before a program that leaves no trace. -/
theorem Idle.bind_traceless (hp : Idle p) (hk : ∀ a, Traceless (k a)) : Traceless (p >>= k) := by
  intro hub failure hub' h
  cases hrun : p hub with
  | ok a other =>
    rw [bind_ok hrun, hp.eq_of_ok hrun] at h
    exact hk a hub failure hub' h
  | error e other =>
    rw [bind_error hrun] at h
    cases h
    exact hp.traceless hub _ _ hrun

/-- What does not fail may come after it. -/
theorem Traceless.bind_unfailing (hp : Traceless p) (hk : ∀ a, Unfailing (k a)) :
    Traceless (p >>= k) := by
  intro hub failure hub' h
  cases hrun : p hub with
  | ok a other =>
    obtain ⟨b, end', hok⟩ := hk a other
    rw [bind_ok hrun, hok] at h
    cases h
  | error e other =>
    rw [bind_error hrun] at h
    cases h
    exact hp hub _ _ hrun

theorem unfailing_pure (a : α) : Unfailing (pure a) := fun _ => ⟨_, _, rfl⟩

theorem unfailing_setSlot (id : SlotId) (slot : Slot) : Unfailing (setSlot id slot) :=
  fun _ => ⟨_, _, rfl⟩

theorem traceless_changeSlot (id : SlotId) (change : Slot → Except Failure Slot) :
    Traceless (changeSlot id change) :=
  (idle_reading (·.slotAt id)).bind_traceless fun _ =>
    (idle_conclude _).bind_traceless fun _ => (unfailing_setSlot id _).traceless

theorem traceless_addNested (owner nested : SlotId) : Traceless (addNested owner nested) :=
  (idle_reading (·.slotAt owner)).bind_traceless fun slot =>
    (idle_reading fun hub => slot.children.filterMap (hub.slots[·]?)).bind_traceless fun _ =>
      (idle_reading (·.slotAt nested)).bind_traceless fun _ =>
        (idle_conclude _).bind_traceless fun _ => (unfailing_setSlot owner _).traceless

/-- **Giving a slot an option** leaves no trace if it is refused, although the mark of an
enum is set before the last check. -/
theorem traceless_addOption (owner option : SlotId) : Traceless (addOption owner option) := by
  intro hub failure hub' h
  rw [addOption_eq] at h
  split at h
  · cases h
  · cases h
    rfl

theorem idle_validate (id : CommandId) : Idle (validate id) :=
  (idle_reading (·.commandAt id)).bind fun command =>
    (idle_reading fun hub => Grammar.layOut hub.slots command.arguments).bind fun _ =>
      idle_conclude _

/-- Registering a command fails in its check alone. -/
theorem traceless_register (registry : RegistryId) (id : CommandId) :
    Traceless (register registry id) :=
  (idle_validate id).bind_traceless fun _ => Unfailing.traceless fun _ => ⟨_, _, rfl⟩

theorem traceless_changeCommand {change : Command → HubM Command} (h : ∀ c, Idle (change c))
    (id : CommandId) : Traceless (changeCommand id change) :=
  (idle_reading (·.commandAt id)).bind_traceless fun command =>
    (h command).bind_traceless fun _ => Unfailing.traceless fun _ => ⟨_, _, rfl⟩

theorem traceless_changeRegistry {change : Registry → HubM Registry} (h : ∀ r, Idle (change r))
    (id : RegistryId) : Traceless (changeRegistry id change) :=
  (idle_reading (·.registryAt id)).bind_traceless fun entry =>
    (h entry).bind_traceless fun _ => Unfailing.traceless fun _ => ⟨_, _, rfl⟩

theorem idle_requireCallable (m : Mismatch) (operand : Handle) : Idle (requireCallable m operand) :=
  (idle_callable? operand).bind fun _ => idle_require _ _

theorem idle_withAlias (command : Command) (operand : Handle) : Idle (withAlias command operand) :=
  (idle_require _ _).bind fun _ => idle_conclude _

theorem idle_withArgument (command : Command) (operand : Handle) :
    Idle (withArgument command operand) :=
  (idle_require _ _).bind fun id =>
    (idle_reading fun hub => command.arguments.filterMap (hub.slots[·]?)).bind fun _ =>
      (idle_reading (·.slotAt id)).bind fun _ => idle_conclude _

/-! ## Calls for one item -/

theorem traceless_addNestedOperand (id : SlotId) (operand : Handle) :
    Traceless (addNestedOperand id operand) :=
  (idle_require _ _).bind_traceless fun _ => traceless_addNested id _

theorem traceless_addOptionOperand (id : SlotId) (operand : Handle) :
    Traceless (addOptionOperand id operand) :=
  (idle_require _ _).bind_traceless fun _ => traceless_addOption id _

theorem traceless_registerOperand (id : RegistryId) (operand : Handle) :
    Traceless (registerOperand id operand) :=
  (idle_require _ _).bind_traceless fun command =>
    (traceless_register id command).bind_unfailing fun _ => unfailing_pure _

/-- The calls that make one change each. -/
def singleCalls : List Method :=
  [.makeRequired, .makeEnum, .addArgument, .addOption, .setValidator, .setDefault, .bind,
   .setDescription, .restrictAccess, .setAction, .setPrecondition, .addCommand, .useMarker,
   .useSuggester, .onError]

theorem traceless_callOnSlot (h : method ∈ singleCalls) (id : SlotId) (operands : Operands) :
    Traceless (callOnSlot id operands method) := by
  have hend : ∀ {p : HubM Unit}, Traceless p → Traceless (p >>= fun _ => pure (Handle.slot id)) :=
    fun hp => hp.bind_unfailing fun _ => unfailing_pure _
  have hnone : ∀ m : Mismatch, Traceless (mismatch m : HubM Handle) :=
    fun m => (idle_mismatch m).traceless
  cases method with
  | makeRequired => exact hend (traceless_changeSlot id _)
  | makeEnum => exact hend (traceless_changeSlot id _)
  | addArgument => exact hend (traceless_addNestedOperand id _)
  | addOption => exact hend (traceless_addOptionOperand id _)
  | setDefault => exact hend ((idle_display _).bind_traceless fun _ => traceless_changeSlot id _)
  | setValidator =>
    refine hend ((idle_rule? _).bind_traceless fun _ => (idle_require _ _).bind_traceless fun _ => ?_)
    exact traceless_changeSlot id _
  | bind => exact (idle_require _ _).bind_traceless fun _ => hend (traceless_changeSlot id _)
  | _ => first | exact hnone _ | exact absurd h (by decide)

theorem traceless_callOnCommand (h : method ∈ singleCalls) (id : CommandId)
    (operands : Operands) : Traceless (callOnCommand id operands method) := by
  have hend : ∀ {change : Command → HubM Command}, (∀ c, Idle (change c)) →
      Traceless (changeCommand id change >>= fun _ => pure (Handle.command id)) :=
    fun hp => (traceless_changeCommand hp id).bind_unfailing fun _ => unfailing_pure _
  cases method with
  | setDescription => exact hend fun _ => (idle_require _ _).bind fun _ => idle_pure _
  | restrictAccess => exact hend fun _ => (idle_require _ _).bind fun _ => idle_pure _
  | setAction => exact hend fun _ => (idle_requireCallable _ _).bind fun _ => idle_pure _
  | setPrecondition => exact hend fun _ => (idle_requireCallable _ _).bind fun _ => idle_pure _
  | addArgument => exact hend fun command => idle_withArgument command _
  | _ => first | exact (idle_mismatch _).traceless | exact absurd h (by decide)

theorem traceless_callOnRegistry (h : method ∈ singleCalls) (id : RegistryId)
    (operands : Operands) : Traceless (callOnRegistry id operands method) := by
  have hend : ∀ {change : Registry → HubM Registry} {on : Handle}, (∀ r, Idle (change r)) →
      Traceless (changeRegistry id change >>= fun _ => pure on) :=
    fun hp => (traceless_changeRegistry hp id).bind_unfailing fun _ => unfailing_pure _
  cases method with
  | useMarker => exact hend fun _ => (idle_require _ _).bind fun _ => idle_pure _
  | useSuggester => exact hend fun _ => (idle_requireCallable _ _).bind fun _ => idle_pure _
  | onError => exact hend fun _ => (idle_requireCallable _ _).bind fun _ => idle_pure _
  | addCommand =>
    exact (traceless_registerOperand id _).bind_unfailing fun _ => unfailing_pure _
  | _ => first | exact (idle_mismatch _).traceless | exact absurd h (by decide)

/-! ## Which calls are made at all -/

/-- Whether a call is made: there must be such a call on the object, and its operands must
be given by the names that it takes, or by position. -/
def offered (on : Handle) (method : Method) (operands : Operands) : Bool :=
  (Method.callsOn on).contains method &&
    (operands.misnamed? (on.typeName ++ "." ++ method.name) (Method.parameters on method)).isNone

/-- A call that is not made is refused and changes nothing. -/
theorem callOn_not_offered {on : Handle} (h : offered on method operands = false) (hub : Hub) :
    ∃ m, callOn on method operands hub = .error (.mismatch m) hub := by
  unfold callOn
  by_cases hcalls : (Method.callsOn on).contains method = true
  · cases hm : operands.misnamed? (on.typeName ++ "." ++ method.name)
        (Method.parameters on method) with
    | none => rw [offered, hcalls, hm] at h; cases h
    | some m => simp only [hcalls, if_true]; exact ⟨m, rfl⟩
  · simp only [hcalls, Bool.false_eq_true, if_false]
    exact ⟨_, rfl⟩

theorem idle_callOn {on : Handle} (h : offered on method operands = false) :
    Idle (callOn on method operands) := by
  intro hub
  obtain ⟨m, hrefused⟩ := callOn_not_offered h hub
  rw [after, hrefused]

theorem callOn_slot (h : offered (.slot id) method operands = true) :
    callOn (.slot id) method operands = callOnSlot id operands method := by
  rw [offered, Bool.and_eq_true, Option.isNone_iff_eq_none] at h
  simp only [callOn, h.1, h.2, if_true]

theorem callOn_command (h : offered (.command id) method operands = true) :
    callOn (.command id) method operands = callOnCommand id operands method := by
  rw [offered, Bool.and_eq_true, Option.isNone_iff_eq_none] at h
  simp only [callOn, h.1, h.2, if_true]

theorem callOn_registry (h : offered (.registry id) method operands = true) :
    callOn (.registry id) method operands = callOnRegistry id operands method := by
  rw [offered, Bool.and_eq_true, Option.isNone_iff_eq_none] at h
  simp only [callOn, h.1, h.2, if_true]

/-- All calls but that for finding something are made on slots, commands and registries. -/
theorem object_of_offered {on : Handle} (h : offered on method operands = true)
    (hfind : method ≠ .find) :
    (∃ id, on = .slot id) ∨ (∃ id, on = .command id) ∨ ∃ id, on = .registry id := by
  have hmethod : (Method.callsOn on).contains method = true := (Bool.and_eq_true_iff.1 h).1
  cases on with
  | slot id => exact .inl ⟨id, rfl⟩
  | command id => exact .inr (.inl ⟨id, rfl⟩)
  | registry id => exact .inr (.inr ⟨id, rfl⟩)
  | datum d =>
    cases d with
    | text s =>
      have hmem : method ∈ [Method.find] := List.contains_iff_mem.1 hmethod
      exact absurd (List.mem_singleton.1 hmem) hfind
    | _ => exact absurd hmethod Bool.false_ne_true
  | _ => exact absurd hmethod Bool.false_ne_true

/-- **A call for one change that is refused leaves no trace**, whatever it is made on. -/
theorem traceless_callOn {on : Handle} (h : method ∈ singleCalls) :
    Traceless (callOn on method operands) := by
  cases hoffered : offered on method operands with
  | false => exact (idle_callOn hoffered).traceless
  | true =>
    have hfind : method ≠ .find := by
      rintro rfl
      exact absurd h (by decide)
    rcases object_of_offered hoffered hfind with ⟨id, rfl⟩ | ⟨id, rfl⟩ | ⟨id, rfl⟩
    · rw [callOn_slot hoffered]
      exact traceless_callOnSlot h id operands
    · rw [callOn_command hoffered]
      exact traceless_callOnCommand h id operands
    · rw [callOn_registry hoffered]
      exact traceless_callOnRegistry h id operands

end Chatline.HubM
