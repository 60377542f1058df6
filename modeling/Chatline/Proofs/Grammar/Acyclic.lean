import Chatline.Proofs.Grammar.Reach
import Mathlib.Logic.Relation
import Mathlib.Data.List.Perm.Subperm
/-!
# Grammars without cycles

A slot may come to stand below itself, and then no tree holds all that it owns. Where
this does not happen a chain of slots, each owned by the one before it, has no slot
twice and so is no longer than the store. Hence as many levels as there are slots lay
out the whole tree (`shallow_of_acyclic`), and further levels add nothing
(`unfold_of_shallow`).
-/

namespace Chatline

namespace Grammar

open Relation

variable {store : List Slot} {roots ids : List SlotId} {i j : SlotId} {slot : Slot} {depth n : Nat}

/-- That a slot owns another. -/
def Child (store : List Slot) (i j : SlotId) : Prop :=
  ∃ slot, store[i]? = some slot ∧ j ∈ slot.children

/-- That a slot stands in the grammar of some roots, however far down. -/
inductive Reached (store : List Slot) (roots : List SlotId) : SlotId → Prop
  /-- A root. -/
  | root {i : SlotId} : i ∈ roots → Reached store roots i
  /-- A slot that another one owns. -/
  | child {i j : SlotId} : Reached store roots i → Child store i j → Reached store roots j

/-- **That no slot in the grammar of some roots stands below itself.** -/
def Acyclic (store : List Slot) (roots : List SlotId) : Prop :=
  ∀ i, Reached store roots i → ¬ TransGen (Child store) i i

theorem Reached.trans (hi : Reached store roots i) (hslot : store[i]? = some slot)
    (hj : Reached store slot.children j) : Reached store roots j := by
  induction hj with
  | root hmem => exact hi.child ⟨slot, hslot, hmem⟩
  | child _ hchild ih => exact ih.child hchild

/-- If every slot has a lower number than those it owns there are no cycles. -/
theorem acyclic_of_lt (h : ∀ entry ∈ store.zipIdx, ∀ j ∈ entry.1.children, entry.2 < j) :
    Acyclic store roots := by
  have hchild : ∀ i j, Child store i j → i < j := by
    rintro i j ⟨slot, hslot, hj⟩
    exact h (slot, i) (List.mem_zipIdx_iff_getElem?.2 hslot) j hj
  have hbelow : ∀ i j, TransGen (Child store) i j → i < j := by
    intro i j hij
    induction hij with
    | single hij => exact hchild i _ hij
    | tail _ hij ih => exact ih.trans (hchild _ _ hij)
  exact fun i _ hcycle => Nat.lt_irrefl i (hbelow i i hcycle)

section Alike

variable {s t : List Slot}

theorem Alike.child (h : Alike s t) (hchild : Child s i j) : Child t i j := by
  obtain ⟨slot, hslot, hj⟩ := hchild
  have hblank := h.getElem? i
  rw [hslot] at hblank
  obtain ⟨other, hother, heq⟩ := Option.map_eq_some_iff.1 hblank.symm
  have hblanks : other.blank.children = slot.blank.children := congrArg Slot.children heq
  have hsame : other.children = slot.children := hblanks
  exact ⟨other, hother, hsame ▸ hj⟩

theorem Alike.reached (h : Alike s t) (hi : Reached s roots i) : Reached t roots i := by
  induction hi with
  | root hmem => exact .root hmem
  | child _ hchild ih => exact ih.child (h.child hchild)

theorem Alike.acyclic (h : Alike s t) (ht : Acyclic t roots) : Acyclic s roots :=
  fun i hi hcycle => ht i (h.reached hi) (TransGen.mono (fun _ _ hchild => h.child hchild) _ _ hcycle)

end Alike

/-! ## Levels -/

/-- That a grammar has no more levels than told. -/
def Shallow (store : List Slot) : Nat → List SlotId → Prop
  | 0, ids => ∀ i ∈ ids, store[i]? = none
  | depth + 1, ids => ∀ i ∈ ids, ∀ slot, store[i]? = some slot → Shallow store depth slot.children

theorem Shallow.of_cons (h : Shallow store depth (i :: ids)) : Shallow store depth ids := by
  cases depth with
  | zero => exact fun j hj => h j (List.mem_cons_of_mem _ hj)
  | succ depth => exact fun j hj => h j (List.mem_cons_of_mem _ hj)

/-- **In a grammar with more levels there is a longer chain** of slots, each owned by
the one before it. -/
theorem exists_chain (h : ¬ Shallow store depth ids) :
    ∃ i ∈ ids, ∃ below, below.length = depth ∧ (i :: below).IsChain (Child store) ∧
      ∀ j ∈ i :: below, j < store.length ∧ Reached store ids j := by
  induction depth generalizing ids with
  | zero =>
    rw [Shallow] at h
    push Not at h
    obtain ⟨i, hi, hslot⟩ := h
    have hlt : i < store.length := by
      by_contra hge
      exact hslot (List.getElem?_eq_none (Nat.le_of_not_lt hge))
    refine ⟨i, hi, [], rfl, .singleton i, fun j hj => ?_⟩
    rw [List.mem_singleton.1 hj]
    exact ⟨hlt, .root hi⟩
  | succ depth ih =>
    rw [Shallow] at h
    push Not at h
    obtain ⟨i, hi, slot, hslot, hdeep⟩ := h
    obtain ⟨c, hc, below, hlength, hchain, hmem⟩ := ih hdeep
    have hlt := (List.getElem?_eq_some_iff.1 hslot).1
    refine ⟨i, hi, c :: below, by rw [List.length_cons, hlength],
      List.isChain_cons_cons.2 ⟨⟨slot, hslot, hc⟩, hchain⟩, fun j hj => ?_⟩
    rcases List.mem_cons.1 hj with rfl | hj
    · exact ⟨hlt, .root hi⟩
    · exact ⟨(hmem j hj).1, (Reached.root hi).trans hslot (hmem j hj).2⟩

/-- **Without cycles there are no more levels than slots.** -/
theorem shallow_of_acyclic (h : Acyclic store roots) : Shallow store store.length roots := by
  by_contra hdeep
  obtain ⟨i, -, below, hlength, hchain, hmem⟩ := exists_chain hdeep
  have hpairs : (i :: below).Pairwise (TransGen (Child store)) :=
    List.isChain_iff_pairwise.1 (hchain.imp fun _ _ => TransGen.single)
  -- a slot that comes twice would stand below itself
  have hnodup : (i :: below).Nodup := by
    refine hpairs.imp_of_mem fun {a b} ha _ hab heq => ?_
    rw [← heq] at hab
    exact h a (hmem a ha).2 hab
  have hsubset : i :: below ⊆ List.range store.length :=
    fun j hj => List.mem_range.2 (hmem j hj).1
  have hle := (hnodup.subperm hsubset).length_le
  rw [List.length_cons, List.length_range, hlength] at hle
  omega

theorem unfold_cons_of_some (hslot : store[i]? = some slot) :
    unfold store (depth + 1) (i :: ids) =
      cons i slot (unfold store depth slot.children) (unfold store (depth + 1) ids) := by
  rw [unfold, List.foldr_cons, hslot, unfold]

theorem unfold_cons_of_none (hslot : store[i]? = none) :
    unfold store depth (i :: ids) = unfold store depth ids := by
  cases depth with
  | zero => rfl
  | succ depth => rw [unfold, List.foldr_cons, hslot, unfold]

/-- **Further levels add nothing.** -/
theorem unfold_of_shallow (h : Shallow store depth ids) (hle : depth ≤ n) :
    unfold store n ids = unfold store depth ids := by
  induction depth generalizing ids n with
  | zero =>
    induction ids with
    | nil => cases n <;> rfl
    | cons i ids ih =>
      have hslot : store[i]? = none := h i List.mem_cons_self
      rw [unfold_cons_of_none hslot, unfold_cons_of_none hslot]
      exact ih h.of_cons
  | succ depth ihd =>
    obtain ⟨n, rfl⟩ : ∃ m, n = m + 1 := ⟨n - 1, by omega⟩
    induction ids with
    | nil => rfl
    | cons i ids ih =>
      have hrest := ih h.of_cons
      cases hslot : store[i]? with
      | none => rw [unfold_cons_of_none hslot, unfold_cons_of_none hslot, hrest]
      | some slot =>
        have hchildren : unfold store n slot.children = unfold store depth slot.children :=
          ihd (h i List.mem_cons_self slot hslot) (by omega)
        rw [unfold_cons_of_some hslot, unfold_cons_of_some hslot, hchildren, hrest]

/-- With one level or more the siblings are the slots of the roots. -/
theorem siblings_unfold_succ (store : List Slot) (depth : Nat) (ids : List SlotId) :
    (unfold store (depth + 1) ids).siblings = ids.filterMap (store[·]?) := by
  induction ids with
  | nil => rfl
  | cons i ids ih =>
    cases hslot : store[i]? with
    | none => rw [unfold_cons_of_none hslot, List.filterMap_cons_none hslot, ih]
    | some slot =>
      rw [unfold_cons_of_some hslot, List.filterMap_cons_some hslot, siblings, ih]

/-- So they are in a whole grammar. -/
theorem siblings_unfold (h : Shallow store depth ids) :
    (unfold store depth ids).siblings = ids.filterMap (store[·]?) := by
  -- one more level lays out the same
  rw [← unfold_of_shallow h (Nat.le_succ depth), siblings_unfold_succ]

/-- And in the grammar that some slots stand for. -/
theorem siblings_layOut (store : List Slot) (ids : List SlotId) :
    (layOut store ids).siblings = ids.filterMap (store[·]?) := by
  rw [layOut]
  cases store with
  | nil =>
    -- no slot of the roots is there
    refine (List.filterMap_eq_nil_iff.2 fun i _ => ?_).symm
    exact List.getElem?_nil
  | cons slot store => exact siblings_unfold_succ _ _ _

end Grammar

end Chatline
