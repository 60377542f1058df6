import Chatline.Proofs.Grammar.Options
/-!
# Laid-out grammars

`Grammar.layOut` reads a tree off the store of slots. What it lays out is held
in the store, slot by slot (`heldIn_layOut`). Which tree it is does not depend
on the values of the slots: a store without the values lays out the tree
without them (`layOut_blank`), so stores that differ in values alone lay out
the same slots in the same places.
-/

namespace Chatline

/-! ## Values apart -/

namespace Slot

variable (slot : Slot)

/-- The slot with another value. -/
def holding (value : String) : Slot := { slot with value }

/-- The slot without its value. -/
def blank : Slot := slot.holding ""

end Slot

namespace Grammar

variable {store : List Slot} {g children sub : Grammar} {id oid : SlotId} {option : Slot}
variable {word : String}

/-! ## Held grammars -/

/-- That the store holds every slot of a grammar under its number. -/
def HeldIn (store : List Slot) : Grammar → Prop
  | nil => True
  | cons id slot children rest =>
    store[id]? = some slot ∧ children.HeldIn store ∧ rest.HeldIn store

/-- A grammar laid out to some depth is held in the store. -/
theorem heldIn_unfold (depth : Nat) (ids : List SlotId) :
    (unfold store depth ids).HeldIn store := by
  induction depth generalizing ids with
  | zero => trivial
  | succ depth ihd =>
    rw [unfold]
    induction ids with
    | nil => trivial
    | cons id ids ih =>
      rw [List.foldr_cons]
      split
      · next slot hslot => exact ⟨hslot, ihd slot.children, ih⟩
      · exact ih

/-- **A laid-out grammar is held in its store.** -/
theorem heldIn_layOut (ids : List SlotId) : (layOut store ids).HeldIn store :=
  heldIn_unfold _ ids

/-- Every slot of what is held is in the store. -/
theorem HeldIn.of_mem_slots {slot : Slot} (h : g.HeldIn store) (hslot : slot ∈ g.slots) :
    slot ∈ store := by
  induction g with
  | nil => cases hslot
  | cons id first children rest ihc ihr =>
    obtain ⟨hfirst, hchildren, hrest⟩ := h
    rw [slots, List.mem_cons, List.mem_append] at hslot
    rcases hslot with rfl | hslot | hslot
    · exact List.mem_of_getElem? hfirst
    · exact ihc hchildren hslot
    · exact ihr hrest hslot

/-- What is held passes on. -/
theorem hereditary_heldIn : Hereditary (HeldIn store) := fun h => h.2

/-! ## Grammars without values -/

/-- The grammar without the values of its slots. -/
def blank : Grammar → Grammar
  | nil => nil
  | cons id slot children rest => cons id slot.blank children.blank rest.blank

@[simp] theorem isEmpty_blank : g.blank.isEmpty = g.isEmpty := by
  cases g <;> rfl

@[simp] theorem ids_blank : g.blank.ids = g.ids := by
  induction g with
  | nil => rfl
  | cons id slot children rest ihc ihr => rw [blank, ids, ids, ihc, ihr]

/-- A store without values lays out a grammar without values, to any depth. -/
theorem unfold_blank (depth : Nat) (ids : List SlotId) :
    unfold (store.map Slot.blank) depth ids = (unfold store depth ids).blank := by
  induction depth generalizing ids with
  | zero => rfl
  | succ depth ihd =>
    rw [unfold, unfold]
    induction ids with
    | nil => rfl
    | cons id ids ih =>
      rw [List.foldr_cons, List.foldr_cons, List.getElem?_map]
      cases store[id]? with
      | none => exact ih
      | some slot =>
        have howned : unfold (store.map Slot.blank) depth slot.blank.children =
            (unfold store depth slot.children).blank := ihd slot.children
        simp only [Option.map_some, blank, howned, ih]

/-- **The tree does not depend on the values.** -/
theorem layOut_blank (ids : List SlotId) :
    layOut (store.map Slot.blank) ids = (layOut store ids).blank := by
  rw [layOut, layOut, List.length_map]
  exact unfold_blank _ ids

/-- That two stores differ in values alone. -/
def Alike (s t : List Slot) : Prop := s.map Slot.blank = t.map Slot.blank

section Alike

variable {s t : List Slot}

/-- Stores that are alike lay out the same tree, apart from the values. -/
theorem Alike.layOut (h : Alike s t) (ids : List SlotId) :
    (layOut s ids).blank = (layOut t ids).blank := by
  rw [← layOut_blank, ← layOut_blank, h]

/-- In particular they lay out the same slots. -/
theorem Alike.ids_layOut (h : Alike s t) (ids : List SlotId) :
    (Grammar.layOut s ids).ids = (Grammar.layOut t ids).ids := by
  rw [← ids_blank, h.layOut ids, ids_blank]

/-- What stores that are alike hold is alike. -/
theorem Alike.getElem? (h : Alike s t) (i : SlotId) :
    (s[i]?).map Slot.blank = (t[i]?).map Slot.blank := by
  rw [← List.getElem?_map, ← List.getElem?_map, h]

/-- It is the same once it is reset. -/
theorem Alike.getElem?_reset (h : Alike s t) (i : SlotId) :
    (s[i]?).map Slot.reset = (t[i]?).map Slot.reset := by
  -- resetting does not look at the value
  have hreset : ∀ o : Option Slot, o.map Slot.reset = (o.map Slot.blank).map Slot.reset := by
    intro o
    rw [Option.map_map]
    rfl
  rw [hreset, h.getElem? i, ← hreset]

end Alike

end Grammar

end Chatline
