import Chatline.Proofs.Grammar.Layout
import Mathlib.Data.Finset.Card
/-!
# As many levels as there are slots

`Grammar.layOut` lays out as many levels of a grammar as there are slots in the
store. One more level lays out no further slot, since each level that does so
needs a slot that no level before it had. So what is laid out is all that the
roots own, however far down (`mem_layOut_of_child`), also where slots are
shared or own themselves.
-/

namespace Chatline

namespace Grammar

variable {store : List Slot} {depth : Nat} {roots : List SlotId} {i j : SlotId} {slot : Slot}

/-- What is laid out are the roots and, to one level less, what each of them owns. -/
theorem mem_ids_unfold :
    i ∈ (unfold store (depth + 1) roots).ids ↔
      ∃ r ∈ roots, ∃ slot, store[r]? = some slot ∧
        (i = r ∨ i ∈ (unfold store depth slot.children).ids) := by
  rw [unfold]
  induction roots with
  | nil => simp [ids]
  | cons r roots ih =>
    rw [List.foldr_cons]
    cases hr : store[r]? with
    | none =>
      dsimp only
      rw [ih]
      constructor
      · rintro ⟨s, hs, hrest⟩
        exact ⟨s, List.mem_cons_of_mem _ hs, hrest⟩
      · rintro ⟨s, hs, slot, hslot, hrest⟩
        rcases List.mem_cons.1 hs with rfl | hs
        · rw [hr] at hslot
          cases hslot
        · exact ⟨s, hs, slot, hslot, hrest⟩
    | some slot =>
      dsimp only
      rw [ids, List.mem_cons, List.mem_append, ih]
      constructor
      · rintro (rfl | hown | ⟨s, hs, hrest⟩)
        · exact ⟨i, List.mem_cons_self, slot, hr, Or.inl rfl⟩
        · exact ⟨r, List.mem_cons_self, slot, hr, Or.inr hown⟩
        · exact ⟨s, List.mem_cons_of_mem _ hs, hrest⟩
      · rintro ⟨s, hs, other, hother, hrest⟩
        rcases List.mem_cons.1 hs with rfl | hs
        · rw [hr] at hother
          cases hother
          rcases hrest with rfl | hown
          · exact Or.inl rfl
          · exact Or.inr (Or.inl hown)
        · exact Or.inr (Or.inr ⟨s, hs, other, hother, hrest⟩)

/-- Seen from below: what is laid out are the roots and, one level further, what
the slots that are laid out own. -/
theorem mem_ids_unfold_succ :
    i ∈ (unfold store (depth + 1) roots).ids ↔
      (∃ slot, store[i]? = some slot) ∧
        (i ∈ roots ∨ ∃ j ∈ (unfold store depth roots).ids, ∃ slot, store[j]? = some slot ∧
          i ∈ slot.children) := by
  induction depth generalizing roots with
  | zero =>
    rw [mem_ids_unfold]
    constructor
    · rintro ⟨r, hr, slot, hslot, rfl | hown⟩
      · exact ⟨⟨slot, hslot⟩, Or.inl hr⟩
      · cases hown
    · rintro ⟨⟨slot, hslot⟩, hi | ⟨j, hj, -⟩⟩
      · exact ⟨i, hi, slot, hslot, Or.inl rfl⟩
      · cases hj
  | succ depth ih =>
    rw [mem_ids_unfold]
    constructor
    · rintro ⟨r, hr, slot, hslot, rfl | hown⟩
      · exact ⟨⟨slot, hslot⟩, Or.inl hr⟩
      · obtain ⟨hi, hchild | ⟨j, hj, hrest⟩⟩ := ih.1 hown
        · refine ⟨hi, Or.inr ⟨r, mem_ids_unfold.2 ?_, slot, hslot, hchild⟩⟩
          exact ⟨r, hr, slot, hslot, Or.inl rfl⟩
        · refine ⟨hi, Or.inr ⟨j, mem_ids_unfold.2 ?_, hrest⟩⟩
          exact ⟨r, hr, slot, hslot, Or.inr hj⟩
    · rintro ⟨hi, hroot | ⟨j, hj, other, hother, hchild⟩⟩
      · obtain ⟨slot, hslot⟩ := hi
        exact ⟨i, hroot, slot, hslot, Or.inl rfl⟩
      · obtain ⟨r, hr, slot, hslot, rfl | hown⟩ := mem_ids_unfold.1 hj
        · rw [hother] at hslot
          cases hslot
          exact ⟨j, hr, other, hother, Or.inr (ih.2 ⟨hi, Or.inl hchild⟩)⟩
        · refine ⟨r, hr, slot, hslot, Or.inr (ih.2 ⟨hi, Or.inr ⟨j, hown, other, hother, hchild⟩⟩)⟩

/-! ## The levels come to an end -/

/-- The slots of the first levels. -/
def levels (store : List Slot) (roots : List SlotId) (depth : Nat) : Finset SlotId :=
  (unfold store depth roots).ids.toFinset

theorem mem_levels : i ∈ levels store roots depth ↔ i ∈ (unfold store depth roots).ids :=
  List.mem_toFinset

/-- One more level keeps the slots that are there. -/
theorem levels_subset_succ (depth : Nat) :
    levels store roots depth ⊆ levels store roots (depth + 1) := by
  induction depth with
  | zero =>
    intro i hi
    cases mem_levels.1 hi
  | succ depth ih =>
    intro i hi
    obtain ⟨hvalid, hroot | ⟨j, hj, hrest⟩⟩ := mem_ids_unfold_succ.1 (mem_levels.1 hi)
    · exact mem_levels.2 (mem_ids_unfold_succ.2 ⟨hvalid, Or.inl hroot⟩)
    · have hj' := mem_levels.1 (ih (mem_levels.2 hj))
      exact mem_levels.2 (mem_ids_unfold_succ.2 ⟨hvalid, Or.inr ⟨j, hj', hrest⟩⟩)

/-- Once a level brings no further slot, the next brings none either. -/
theorem levels_stable (h : levels store roots depth = levels store roots (depth + 1)) :
    levels store roots (depth + 1) = levels store roots (depth + 2) := by
  refine Finset.Subset.antisymm (levels_subset_succ _) fun i hi => ?_
  obtain ⟨hvalid, hroot | ⟨j, hj, hrest⟩⟩ := mem_ids_unfold_succ.1 (mem_levels.1 hi)
  · exact mem_levels.2 (mem_ids_unfold_succ.2 ⟨hvalid, Or.inl hroot⟩)
  · have hj' : j ∈ levels store roots depth := by
      rw [h]
      exact mem_levels.2 hj
    exact mem_levels.2 (mem_ids_unfold_succ.2 ⟨hvalid, Or.inr ⟨j, mem_levels.1 hj', hrest⟩⟩)

/-- As long as each level brings a further slot there are as many slots as levels. -/
theorem le_card_levels (h : levels store roots depth ≠ levels store roots (depth + 1)) :
    depth + 1 ≤ (levels store roots (depth + 1)).card := by
  have hgrows : (levels store roots depth).card < (levels store roots (depth + 1)).card :=
    Finset.card_lt_card (Finset.ssubset_iff_subset_ne.2 ⟨levels_subset_succ depth, h⟩)
  induction depth with
  | zero => omega
  | succ depth ih =>
    -- the level before grew too, or this one could not have
    have hbefore : levels store roots depth ≠ levels store roots (depth + 1) :=
      fun heq => h (levels_stable heq)
    have hgrew : (levels store roots depth).card < (levels store roots (depth + 1)).card :=
      Finset.card_lt_card (Finset.ssubset_iff_subset_ne.2 ⟨levels_subset_succ depth, hbefore⟩)
    have hle := ih hbefore hgrew
    omega

/-- Only slots of the store are laid out. -/
theorem card_levels_le (depth : Nat) : (levels store roots depth).card ≤ store.length := by
  have hsubset : levels store roots depth ⊆ Finset.range store.length := by
    intro i hi
    cases depth with
    | zero => cases mem_levels.1 hi
    | succ depth =>
      obtain ⟨⟨slot, hslot⟩, -⟩ := mem_ids_unfold_succ.1 (mem_levels.1 hi)
      exact Finset.mem_range.2 (List.getElem?_eq_some_iff.1 hslot).1
  have hcard := Finset.card_le_card hsubset
  rwa [Finset.card_range] at hcard

/-- **As many levels as there are slots are enough.** -/
theorem mem_layOut_iff :
    i ∈ (layOut store roots).ids ↔ i ∈ (unfold store (store.length + 1) roots).ids := by
  have hstable : levels store roots store.length = levels store roots (store.length + 1) := by
    by_contra h
    -- there would be a slot for each level, one more than the store has
    have hle := le_card_levels h
    have hcard : (levels store roots (store.length + 1)).card ≤ store.length := card_levels_le _
    omega
  rw [layOut, ← mem_levels, hstable, mem_levels]

/-- **What is laid out is closed**: with a slot everything that it owns. -/
theorem mem_layOut_of_child (hj : j ∈ (layOut store roots).ids) (hslot : store[j]? = some slot)
    (hi : i ∈ (layOut store slot.children).ids) : i ∈ (layOut store roots).ids := by
  -- by induction on the depth, since each level is owned by the one before it
  have hclosed : ∀ depth children, (∀ c ∈ children, (∃ s, store[c]? = some s) →
      c ∈ (layOut store roots).ids) → ∀ i ∈ (unfold store depth children).ids,
      i ∈ (layOut store roots).ids := by
    intro depth
    induction depth with
    | zero =>
      intro children _ i hi
      cases hi
    | succ depth ih =>
      intro children hchildren i hi
      obtain ⟨hvalid, hroot | ⟨k, hk, other, hother, hchild⟩⟩ := mem_ids_unfold_succ.1 hi
      · exact hchildren i hroot hvalid
      · have hk' := ih children hchildren k hk
        exact mem_layOut_iff.2
          (mem_ids_unfold_succ.2 ⟨hvalid, Or.inr ⟨k, hk', other, hother, hchild⟩⟩)
  refine hclosed _ slot.children (fun c hc hvalid => ?_) i hi
  exact mem_layOut_iff.2 (mem_ids_unfold_succ.2 ⟨hvalid, Or.inr ⟨j, hj, slot, hslot, hc⟩⟩)

end Grammar

end Chatline
