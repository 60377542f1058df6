import Chatline.Proofs.Hub.Built
/-!
# Names are for good

A slot is given its name when it is built, and no call changes it. So all slots that were
built have names (`named_construct`).
-/

namespace Chatline

/-! ## Calls on one slot -/

namespace Slot

variable {slot other : Slot} {name : String} {optional : Bool}

/-- A new slot has a name. -/
theorem name_ne_empty_of_make (h : make name optional = .ok slot) : slot.name ≠ "" := by
  rw [make] at h
  split at h
  · cases h
  · next hname =>
    cases h
    exact hname

theorem name_of_change {call : SlotCall} (h : call.change slot = .ok other) :
    other.name = slot.name := by
  cases call with
  | makeOptional => cases h; rfl
  | setValidator rule => cases h; rfl
  | makeRequired =>
    rw [SlotCall.change, makeRequired] at h
    split at h
    · cases h
    · cases h; rfl
  | makeEnum =>
    rw [SlotCall.change, makeEnum] at h
    split at h
    · cases h
    · cases h; rfl
  | setDefault value =>
    rw [SlotCall.change, setDefault] at h
    split at h
    · cases h
    · cases h
    · split at h
      · cases h
      · cases h; rfl

end Slot

/-! ## Any call -/

section Names

variable {hub : Hub} {i : SlotId} {other : Slot} {slots : List Slot}

/-- That some calls kept the names there were, and that new slots have names. -/
def Hub.KeepsNames (hub : Hub) (slots : List Slot) : Prop :=
  ∃ more : List String, slots.map Slot.name = hub.slots.map Slot.name ++ more ∧
    ∀ name ∈ more, name ≠ ""

theorem Hub.keepsNames_of_eq (h : slots.map Slot.name = hub.slots.map Slot.name) :
    hub.KeepsNames slots :=
  ⟨[], by rw [h, List.append_nil], by simp⟩

/-- Keeping another slot of the same name under a number. -/
theorem Hub.keepsNames_set (h : other.name = (hub.slotAt i).name) :
    hub.KeepsNames (hub.slots.set i other) := by
  refine keepsNames_of_eq (List.ext_getElem? fun j => ?_)
  rw [List.getElem?_map, List.getElem?_map, List.getElem?_set]
  split
  · next hij =>
    subst hij
    split
    · next hlt => simp [h, Hub.slotAt, hlt]
    · next hge => simp [List.getElem?_eq_none (Nat.le_of_not_lt hge)]
  · rfl

/-- **Names are for good**: a builder call changes no name, and the slots that it brings have
names. -/
theorem keepsNames_after (call : BuilderCall) (hub : Hub) :
    hub.KeepsNames (call.run.after hub).slots := by
  have hkeep : ∀ {store : List Slot}, store = hub.slots → hub.KeepsNames store :=
    fun h => Hub.keepsNames_of_eq (by rw [h])
  cases call with
  | newSlot name optional =>
    cases hmake : Slot.make name optional with
    | error e =>
      refine hkeep ?_
      rw [BuilderCall.run, hmake]
      rfl
    | ok slot =>
      have hslots : ((BuilderCall.newSlot name optional).run.after hub).slots =
          hub.slots ++ [slot] := by
        rw [BuilderCall.run, hmake]
        rfl
      refine ⟨[slot.name], by rw [hslots, List.map_append]; rfl, ?_⟩
      simpa using Slot.name_ne_empty_of_make hmake
  | infer text =>
    have hslots : ((BuilderCall.infer text).run.after hub).slots =
        ((HubM.infer text).after hub).slots := by
      rw [BuilderCall.run, HubM.after_bind]
      cases (HubM.infer text).ended hub <;> rfl
    rw [HubM.after_infer] at hslots
    split at hslots
    · next slots hread =>
      obtain ⟨-, ws, hwritten, rfl⟩ := Notation.read_eq_ok_iff.1 hread
      refine ⟨(ws.map Notation.Word.slot).map Slot.name, by rw [hslots, List.map_append], ?_⟩
      intro name hname
      obtain ⟨slot, hslot, rfl⟩ := List.mem_map.1 hname
      obtain ⟨w, hw, rfl⟩ := List.mem_map.1 hslot
      simpa [Notation.Word.slot] using (hwritten.sound w hw).named
    · exact hkeep hslots
  | onSlot id call =>
    have hslots : ((BuilderCall.onSlot id call).run.after hub).slots = _ :=
      HubM.after_changeSlot id call.change hub
    rw [hslots]
    split
    · next hchange => exact Hub.keepsNames_set (Slot.name_of_change hchange)
    · exact hkeep rfl
  | addNested owner nested =>
    have hslots : ((BuilderCall.addNested owner nested).run.after hub).slots = _ :=
      HubM.after_addNested owner nested hub
    rw [hslots]
    split
    · next hnested =>
      exact Hub.keepsNames_set (by rw [Slot.addNested_eq_ok hnested]; rfl)
    · exact hkeep rfl
  | addOption owner option =>
    have hslots : ((BuilderCall.addOption owner option).run.after hub).slots = _ :=
      HubM.after_addOption owner option hub
    rw [hslots]
    split
    · next hoption =>
      exact Hub.keepsNames_set (by rw [Slot.addOption_eq_ok hoption]; rfl)
    · exact hkeep rfl
  | newCommand name =>
    refine hkeep ?_
    rw [BuilderCall.run]
    cases Command.make name <;> rfl
  | onCommand id call => exact hkeep (HubM.keepsSlots_buildCommand id call.change hub)
  | addArgument id argument => exact hkeep (HubM.keepsSlots_addArgument id argument hub)
  | newRegistry marker colorful fancy => exact hkeep rfl
  | onRegistry id call => exact hkeep rfl
  | register registry id => exact hkeep (HubM.keepsSlots_register registry id hub)

end Names

/-- **Every slot that was built has a name.** -/
theorem named_construct (calls : List BuilderCall) :
    ∀ slot ∈ (construct calls).hub.slots, slot.name ≠ "" := by
  induction calls using List.reverseRecOn with
  | nil =>
    intro slot hslot
    cases hslot
  | append_singleton calls call ih =>
    obtain ⟨more, hnames, hmore⟩ := keepsNames_after call (construct calls).hub
    intro slot hslot
    rw [construct_concat, Construction.after_hub] at hslot
    have hname : slot.name ∈ (call.run.after (construct calls).hub).slots.map Slot.name :=
      List.mem_map_of_mem hslot
    rw [hnames] at hname
    rcases List.mem_append.1 hname with hold | hnew
    · obtain ⟨old, hmem, hsame⟩ := List.mem_map.1 hold
      rw [← hsame]
      exact ih old hmem
    · exact hmore _ hnew

end Chatline
