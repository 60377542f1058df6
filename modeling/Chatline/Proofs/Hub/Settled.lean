import Chatline.Proofs.Grammar.Layout
import Chatline.Proofs.Hub.Run
/-!
# What dispatching may change

While lines are dispatched a hub changes in two ways only: more is observed, and
slots have other values. `Hub.Settled` says how far the values can stray from
those of a hub to start from. The slots of calls that are under way may hold
anything; any other slot holds what it held at the start, or was reset if a
registered command owns it. Resetting a command settles its slots
(`Settled.reset`), and a hub at rest is then back where it was
(`Settled.eq_of_atRest`).
-/

namespace Chatline

open Grammar

/-! ## Resetting -/

namespace Grammar

/-- Resetting some slots one by one resets each of them. -/
theorem foldl_reset_getElem? (ids : List SlotId) (store : List Slot) (i : SlotId) :
    (ids.foldl (fun store id => store.modify id Slot.reset) store)[i]? =
      if i ∈ ids then (store[i]?).map Slot.reset else store[i]? := by
  induction ids generalizing store with
  | nil => rfl
  | cons id ids ih =>
    rw [List.foldl_cons, ih]
    by_cases hid : id = i
    · subst hid
      rw [List.getElem?_modify_eq, if_pos List.mem_cons_self, Option.map_eq_map, Option.map_map]
      split
      · rfl
      · rfl
    · have hmem : i ∈ id :: ids ↔ i ∈ ids :=
        ⟨fun h => (List.mem_cons.1 h).resolve_left fun he => hid he.symm, List.mem_cons_of_mem _⟩
      simp only [List.getElem?_modify_ne _ _ hid, hmem]

/-- **Resetting a grammar** resets the slots that it holds and leaves the others
alone. -/
theorem resetIn_getElem? (g : Grammar) (store : List Slot) (i : SlotId) :
    (g.resetIn store)[i]? = if i ∈ g.ids then (store[i]?).map Slot.reset else store[i]? :=
  foldl_reset_getElem? g.ids store i

/-- Resetting changes values alone. -/
theorem alike_resetIn (g : Grammar) (store : List Slot) : Alike (g.resetIn store) store := by
  refine List.ext_getElem? fun i => ?_
  rw [List.getElem?_map, List.getElem?_map, resetIn_getElem?]
  split
  · rw [Option.map_map]
    rfl
  · rfl

end Grammar

namespace Hub

variable {base hub : Hub} {busy more : List SlotId} {i : SlotId} {id : CommandId}
variable {records earlier : List Event}

/-- The slots of a command. -/
def owned (hub : Hub) (id : CommandId) : List SlotId :=
  (layOut hub.slots (hub.commandAt id).arguments).ids

/-- That a command is registered. -/
def Registered (hub : Hub) (id : CommandId) : Prop :=
  ∃ registry ∈ hub.registries, id ∈ registry.commands

/-- That a registered command owns a slot. -/
def InUse (hub : Hub) (i : SlotId) : Prop := ∃ id, hub.Registered id ∧ i ∈ hub.owned id

/-- **How far a hub may have strayed** from one to start from, while the slots in
`busy` belong to calls that are under way. -/
structure Settled (base : Hub) (busy : List SlotId) (hub : Hub) : Prop where
  /-- Nothing has changed but the slots and what was observed. -/
  same : hub = { base with slots := hub.slots, events := hub.events }
  /-- The slots have changed in their values alone. -/
  alike : Alike hub.slots base.slots
  /-- A slot that is not busy is as it was, or was reset because a registered
  command owns it. -/
  slots : ∀ i ∉ busy, hub.slots[i]? = base.slots[i]? ∨
    base.InUse i ∧ hub.slots[i]? = (base.slots[i]?).map Slot.reset

/-- A hub has not strayed from itself. -/
theorem settled_refl (base : Hub) (busy : List SlotId) : base.Settled busy base :=
  ⟨rfl, rfl, fun _ _ => Or.inl rfl⟩

namespace Settled

theorem commands_eq (h : base.Settled busy hub) : hub.commands = base.commands := by
  rw [h.same]

theorem registries_eq (h : base.Settled busy hub) : hub.registries = base.registries := by
  rw [h.same]

theorem commandAt_eq (h : base.Settled busy hub) : hub.commandAt id = base.commandAt id := by
  rw [commandAt, h.commands_eq, commandAt]

theorem registryAt_eq {r : RegistryId} (h : base.Settled busy hub) :
    hub.registryAt r = base.registryAt r := by
  rw [registryAt, h.registries_eq, registryAt]

/-- The slots of a command stay the same slots. -/
theorem owned_eq (h : base.Settled busy hub) : hub.owned id = base.owned id := by
  rw [owned, h.commandAt_eq, h.alike.ids_layOut, owned]

/-- More slots may be busy. -/
theorem mono (h : base.Settled busy hub) (hsub : busy ⊆ more) : base.Settled more hub :=
  ⟨h.same, h.alike, fun i hi => h.slots i fun hmem => hi (hsub hmem)⟩

/-- What is observed in addition does not matter. -/
theorem logged (h : base.Settled busy hub) : base.Settled busy (hub.logged records) := by
  refine ⟨?_, h.alike, h.slots⟩
  rw [Hub.logged, h.same]

/-- Slots that are busy may be given any values. -/
theorem storing {store : List Slot} (h : base.Settled busy hub) (hstore : Alike store hub.slots)
    (hkeep : ∀ i ∉ busy, store[i]? = hub.slots[i]?) : base.Settled busy (hub.storing store) := by
  refine ⟨?_, hstore.trans h.alike, fun i hi => ?_⟩
  · rw [Hub.storing, h.same]
  · rw [storing_slots, hkeep i hi]
    exact h.slots i hi

/-- **Resetting a registered command settles its slots.** -/
theorem reset (h : base.Settled (base.owned id ++ busy) hub) (hid : base.Registered id) :
    base.Settled busy (hub.storing
      ((layOut hub.slots (hub.commandAt id).arguments).resetIn hub.slots)) := by
  have howned : (layOut hub.slots (hub.commandAt id).arguments).ids = base.owned id := h.owned_eq
  refine ⟨?_, (alike_resetIn _ _).trans h.alike, fun i hi => ?_⟩
  · rw [Hub.storing, h.same]
  · rw [storing_slots, resetIn_getElem?, howned]
    by_cases hmem : i ∈ base.owned id
    · rw [if_pos hmem, h.alike.getElem?_reset]
      exact Or.inr ⟨⟨id, hid, hmem⟩, rfl⟩
    · -- the slot belongs to no call under way, so nothing is new
      rw [if_neg hmem]
      refine h.slots i fun hi' => ?_
      rcases List.mem_append.1 hi' with hi' | hi'
      · exact hmem hi'
      · exact hi hi'

end Settled

/-! ## At rest -/

/-- **A hub at rest**: every slot that a registered command owns holds its
fallback. -/
def AtRest (hub : Hub) : Prop :=
  ∀ i, hub.InUse i → ∀ slot, hub.slots[i]? = some slot → slot.value = slot.fallback

/-- **A hub at rest does not stray** once no call is under way: only what was
observed is new. -/
theorem Settled.eq_of_atRest (h : base.Settled [] hub) (hrest : base.AtRest) :
    hub.quiet = base.quiet := by
  have hslots : hub.slots = base.slots := by
    refine List.ext_getElem? fun i => ?_
    rcases h.slots i List.not_mem_nil with hsame | ⟨huse, hreset⟩
    · exact hsame
    · rw [hreset]
      cases hslot : base.slots[i]? with
      | none => rfl
      | some slot =>
        -- resetting gives the slot what it holds
        have hvalue := hrest i huse slot hslot
        rw [Option.map_some, Slot.reset, ← hvalue]
  rw [quiet, h.same, hslots]
  rfl

end Hub

end Chatline
