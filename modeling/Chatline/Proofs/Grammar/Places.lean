import Chatline.Grammar.Bindings
import Chatline.Proofs.Grammar.Layout
import Chatline.Proofs.Ledger
/-!
# Places in a grammar

The names that lead from the root to a slot are its path, and `Grammar.places` lists all
slots with their paths. Nothing keeps two siblings from having one name, and then all
that stands below them may have the same paths too. Where siblings have different names
a path leads to one slot alone (`nodup_places`).
-/

namespace Chatline

namespace Grammar

variable {path : Path} {g sub : Grammar} {store : List Slot} {word : String} {oid : SlotId}
variable {option : Slot}

/-- Every slot with the path of names that leads to it. -/
def places (path : Path) : Grammar → Ledger Path SlotId
  | nil => []
  | cons id slot children rest =>
    (path ++ [slot.name], id) :: (children.places (path ++ [slot.name]) ++ rest.places path)

/-- Where slots stand does not depend on the values. -/
theorem places_blank : g.blank.places path = g.places path := by
  induction g generalizing path with
  | nil => rfl
  | cons id slot children rest ihc ihr =>
    rw [blank, places, places, ihc, ihr]
    rfl

/-- So slots stand in the same places where stores are alike. -/
theorem Alike.places {s t : List Slot} (h : Alike s t) (path : Path) (ids : List SlotId) :
    (Grammar.layOut s ids).places path = (Grammar.layOut t ids).places path := by
  rw [← places_blank, h.layOut ids, places_blank]

/-- The places of a grammar are those of its slots. -/
theorem places_map_snd : (g.places path).map Prod.snd = g.ids := by
  induction g generalizing path with
  | nil => rfl
  | cons id slot children rest ihc ihr =>
    rw [places, ids, List.map_cons, List.map_append, ihc, ihr]

theorem mem_ids_of_mem_places {place : Path × SlotId} (h : place ∈ g.places path) :
    place.2 ∈ g.ids := by
  have hmem : place.2 ∈ (g.places path).map Prod.snd := List.mem_map_of_mem h
  rwa [places_map_snd] at hmem

/-- Each slot of a grammar has a place. -/
theorem exists_place {i : SlotId} (path : Path) (h : i ∈ g.ids) :
    ∃ place ∈ g.places path, place.2 = i := by
  have hmem : i ∈ (g.places path).map Prod.snd := by rwa [places_map_snd]
  exact List.mem_map.1 hmem

/-- It has only one if no slot stands in two places. -/
theorem place_unique {place other : Path × SlotId} (hids : g.ids.Nodup)
    (h : place ∈ g.places path) (h' : other ∈ g.places path) (hi : place.2 = other.2) :
    place = other := by
  have hnodup : ((g.places path).map Prod.snd).Nodup := by rwa [places_map_snd]
  exact List.inj_on_of_nodup_map hnodup h h' hi

/-- The values of a grammar are those that the store holds for its places. -/
theorem values_eq (h : g.HeldIn store) :
    g.values path = Ledger.mapValues (Bindings.current store) (g.places path) := by
  induction g generalizing path with
  | nil => rfl
  | cons id slot children rest ihc ihr =>
    obtain ⟨hslot, hchildren, hrest⟩ := h
    have hvalue : slot.value = Bindings.current store id := by
      rw [Bindings.current, hslot]
      rfl
    rw [values, places, ihc hchildren, ihr hrest, hvalue, Ledger.mapValues, Ledger.mapValues,
      Ledger.mapValues, List.map_cons, List.map_append]

/-- The places below an option are among those below its enum. -/
theorem option?_places (h : g.option? word = some (oid, option, sub)) :
    (sub.places (path ++ [option.name])).Sublist (g.places path) := by
  induction g with
  | nil => cases h
  | cons id slot children rest _ ih =>
    rw [option?] at h
    split at h
    · cases h
      exact (List.sublist_append_left _ _).trans (List.sublist_cons_self _ _)
    · exact ((ih h).trans (List.sublist_append_right _ _)).trans (List.sublist_cons_self _ _)

/-! ## Names that tell siblings apart -/

/-- That no two siblings have one name, however far down. -/
def NamesApart : Grammar → Prop
  | nil => True
  | cons _ slot children rest =>
    (∀ s ∈ rest.siblings, s.name ≠ slot.name) ∧ children.NamesApart ∧ rest.NamesApart

instance decidableNamesApart : DecidablePred NamesApart
  | nil => isTrue trivial
  | cons _ slot children rest =>
    have := decidableNamesApart children
    have := decidableNamesApart rest
    inferInstanceAs (Decidable
      ((∀ s ∈ rest.siblings, s.name ≠ slot.name) ∧ children.NamesApart ∧ rest.NamesApart))

/-- A place starts with the name of one of the roots. -/
theorem exists_of_mem_places {place : Path × SlotId} (h : place ∈ g.places path) :
    ∃ s ∈ g.siblings, ∃ below, place.1 = path ++ s.name :: below := by
  induction g generalizing path with
  | nil => cases h
  | cons id slot children rest ihc ihr =>
    rw [places, List.mem_cons, List.mem_append] at h
    rcases h with rfl | hchildren | hrest
    · exact ⟨slot, List.mem_cons_self, [], rfl⟩
    · obtain ⟨s, -, below, hplace⟩ := ihc hchildren
      refine ⟨slot, List.mem_cons_self, s.name :: below, ?_⟩
      rw [hplace, List.append_assoc]
      rfl
    · obtain ⟨s, hs, below, hplace⟩ := ihr hrest
      exact ⟨s, List.mem_cons_of_mem _ hs, below, hplace⟩

/-- **Where siblings have different names no path leads to two slots.** -/
theorem nodup_places (h : g.NamesApart) : ((g.places path).map Prod.fst).Nodup := by
  induction g generalizing path with
  | nil => exact List.nodup_nil
  | cons id slot children rest ihc ihr =>
    obtain ⟨hnames, hchildren, hrest⟩ := h
    -- below the slot paths are longer than its own, and beside it they part at its name
    have hlonger : ∀ p ∈ (children.places (path ++ [slot.name])).map Prod.fst,
        ∃ name below, p = path ++ slot.name :: name :: below := by
      intro p hp
      obtain ⟨place, hplace, rfl⟩ := List.mem_map.1 hp
      obtain ⟨s, -, below, heq⟩ := exists_of_mem_places hplace
      exact ⟨s.name, below, by rw [heq, List.append_assoc]; rfl⟩
    have hbeside : ∀ p ∈ (rest.places path).map Prod.fst,
        ∃ name below, name ≠ slot.name ∧ p = path ++ name :: below := by
      intro p hp
      obtain ⟨place, hplace, rfl⟩ := List.mem_map.1 hp
      obtain ⟨s, hs, below, heq⟩ := exists_of_mem_places hplace
      exact ⟨s.name, below, hnames s hs, heq⟩
    rw [places, List.map_cons, List.map_append, List.nodup_cons, List.nodup_append, List.mem_append,
      not_or]
    refine ⟨⟨fun hp => ?_, fun hp => ?_⟩, ihc hchildren, ihr hrest, ?_⟩
    · obtain ⟨name, below, heq⟩ := hlonger _ hp
      simpa using List.append_cancel_left heq
    · obtain ⟨name, below, hne, heq⟩ := hbeside _ hp
      exact hne (List.cons.inj (List.append_cancel_left heq)).1.symm
    · intro p hp q hq heq
      obtain ⟨_, _, hlong⟩ := hlonger p hp
      obtain ⟨name, below, hne, hq⟩ := hbeside q hq
      rw [hlong, hq] at heq
      exact hne (List.cons.inj (List.append_cancel_left heq)).1.symm

end Grammar

end Chatline
