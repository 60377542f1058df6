import Chatline.Proofs.Grammar.Places
import Chatline.Proofs.Match.Kept
/-!
# What a snapshot keeps

The bindings of a match are a ledger of values by path, while the match itself filled
slots. A slot keeps its entry only as long as no other slot is filled under the same
path, and the entry tells the value it was given only as long as the same slot is not
filled once more with another one. Checking a command sees to neither, so
`snapshot_entries` says when nothing is lost: always, if no two siblings have one name
and no slot stands in two places.
-/

namespace Chatline

namespace Grammar

variable {path : Path} {g : Grammar} {words : List String} {fs : List Filling} {halt : Halt}

/-- The place of a filled slot. -/
def Filling.place (f : Filling) : Path × SlotId := (f.path, f.id)

/-- What a match has to tell: an entry for each slot that it filled, in order. -/
def entriesOf (fs : List Filling) : Ledger Path String := fs.map fun f => (f.path, f.value)

/-- That no slot was filled with two values. -/
def OneValued (fs : List Filling) : Prop := ∀ f ∈ fs, ∀ f' ∈ fs, f.id = f'.id → f.value = f'.value

/-- Where a match goes on stands below the slot or beside it. -/
theorem places_onward {inner : Path} {rest owned : Grammar} {below : Ledger Path SlotId}
    (h : (owned.places inner).Sublist below) :
    ((onward path rest inner owned).2.places (onward path rest inner owned).1).Sublist
      (below ++ rest.places path) :=
  onward_cases (P := fun p g => (g.places p).Sublist (below ++ rest.places path))
    (List.sublist_append_right _ _) (h.trans (List.sublist_append_left _ _))

/-- **A match fills slots at their places**, in the order in which the grammar lists
them. -/
theorem Trail.places_sublist (h : Trail path g words fs halt) :
    (fs.map Filling.place).Sublist (g.places path) := by
  induction h with
  | ended => exact List.Sublist.slnil
  | passed => exact List.nil_sublist _
  | lapsed => exact List.singleton_sublist.2 List.mem_cons_self
  | swept => exact List.singleton_sublist.2 List.mem_cons_self
  | chosen _ hopt _ ih => exact (ih.trans (places_onward (option?_places hopt))).cons_cons _
  | defaulted _ _ hdef _ ih =>
    exact (ih.trans (places_onward (option?_places (standIn?_eq_some hdef)))).cons_cons _
  | taken _ _ _ _ ih => exact (ih.trans (places_onward (List.Sublist.refl _))).cons_cons _

/-- Where siblings have different names each slot is filled under a path of its own. -/
theorem Trail.nodup_paths (h : Trail path g words fs halt) (hnames : g.NamesApart) :
    (fs.map Filling.path).Nodup := by
  have hpaths : fs.map Filling.path = (fs.map Filling.place).map Prod.fst := by
    rw [List.map_map]
    rfl
  rw [hpaths]
  exact (nodup_places hnames).sublist (h.places_sublist.map Prod.fst)

/-- Where no slot stands in two places each is filled once. -/
theorem Trail.oneValued (h : Trail path g words fs halt) (hnd : g.ids.Nodup) : OneValued fs := by
  intro f hf f' hf' hid
  have hids : (fs.map Filling.id).Nodup := hnd.sublist h.ids_sublist
  rw [List.inj_on_of_nodup_map hids hf hf' hid]

end Grammar

namespace Hub

open Grammar

variable {hub : Hub} {command : Command} {words : List String} {fs : List Filling} {halt : Halt}

/-- A hub with one command that takes two slots of the same name. -/
def pair : Hub where
  slots := [{ name := "user" }, { name := "user" }]
  commands := [{ name := "Pair", aliases := ["pair"], arguments := [0, 1] }]

/-- Slots hold the values they were filled with exactly if none was filled with two. -/
theorem oneValued_iff (h : Trail [] (layOut hub.slots command.arguments) words fs halt) :
    OneValued fs ↔
      ∀ f ∈ fs, Bindings.current (written hub.slots (boundBy fs)) f.id = f.value := by
  constructor
  · intro hone f hf
    have hmem : f.id ∈ (boundBy fs).map Binding.slot := by
      rw [boundBy_map_slot]
      exact List.mem_map_of_mem hf
    have hlt := (List.getElem?_eq_some_iff.1 (h.heldIn (heldIn_layOut _) f hf).1).1
    -- the value is the one that was written last
    obtain ⟨b, hb, hslot, -, hvalue⟩ := current_written_of_mem hmem hlt
    obtain ⟨f', hf', rfl⟩ := List.mem_map.1 hb
    rw [hvalue]
    exact hone f' hf' f hf hslot
  · intro hheld f hf f' hf' hid
    rw [← hheld f hf, ← hheld f' hf', hid]

/-- **What bindings keep** of the slots that a match filled. -/
theorem snapshotOf_values_iff
    (h : Trail [] (layOut hub.slots command.arguments) words fs halt) :
    (hub.snapshotOf command fs).values = entriesOf fs ↔
      (fs.map Filling.path).Nodup ∧ OneValued fs := by
  rw [snapshotOf_values, entriesOf, Ledger.foldl_put_eq_iff, oneValued_iff h]

theorem length_snapshotOf_values_iff :
    (hub.snapshotOf command fs).values.length = (hub.snapshotOf command fs).arguments.length ↔
      (fs.map Filling.path).Nodup := by
  rw [snapshotOf_values, snapshotOf_arguments, List.length_map, Ledger.length_foldl_put_iff]

end Hub

namespace HubM

open Grammar

variable {hub hub' : Hub} {id : CommandId} {command : Command} {words : List String}
variable {usage : String} {b : Bindings}

/-- **What a snapshot keeps.** Bindings have as many entries as the match filled slots if
and only if no two of these have one path, which is the chain of names that leads to the
slot; and they hold the value of each slot, in order, if and only if besides no slot was
filled with two values. Both are so where no two siblings have one name and no slot
stands in two places. -/
theorem snapshot_entries (hc : hub.commands[id]? = some command)
    (h : matchWords id words usage hub = .ok b hub') :
    ∃ fs halt, Trail [] (layOut hub.slots command.arguments) words fs halt ∧
      b.arguments = fs.map Filling.id ∧
      (fs.map Filling.place).Sublist ((layOut hub.slots command.arguments).places []) ∧
      (b.values.length = b.arguments.length ↔ (fs.map Filling.path).Nodup) ∧
      (b.values = entriesOf fs ↔ (fs.map Filling.path).Nodup ∧ OneValued fs) ∧
      ((layOut hub.slots command.arguments).NamesApart →
        (layOut hub.slots command.arguments).ids.Nodup → b.values = entriesOf fs) := by
  obtain ⟨fs, halt, htrail, rfl, rfl⟩ := trail_of_matchWords hc h
  have hvalues := Hub.snapshotOf_values_iff htrail
  refine ⟨fs, halt, htrail, Hub.snapshotOf_arguments, htrail.places_sublist,
    Hub.length_snapshotOf_values_iff, hvalues, fun hnames hids => ?_⟩
  exact hvalues.2 ⟨htrail.nodup_paths hnames, htrail.oneValued hids⟩

/-- Two users are bound under one name: the first is lost. -/
theorem pair_of_users :
    validate 0 Hub.pair = .ok () Hub.pair ∧
      ∃ b hub', matchWords 0 ["bob", "ann"] "" Hub.pair = .ok b hub' ∧
        b.values = [(["user"], "ann")] ∧
        ∃ fs halt, Trail [] (layOut Hub.pair.slots [0, 1]) ["bob", "ann"] fs halt ∧
          b.arguments = fs.map Filling.id ∧
          (fs.map Filling.place).Sublist ((layOut Hub.pair.slots [0, 1]).places []) ∧
          (b.values.length = b.arguments.length ↔ (fs.map Filling.path).Nodup) ∧
          (b.values = entriesOf fs ↔ (fs.map Filling.path).Nodup ∧ OneValued fs) ∧
          ((layOut Hub.pair.slots [0, 1]).NamesApart →
            (layOut Hub.pair.slots [0, 1]).ids.Nodup → b.values = entriesOf fs) := by
  have hcommand : Hub.pair.commands[0]? =
      some { name := "Pair", aliases := ["pair"], arguments := [0, 1] } := rfl
  obtain ⟨b, hub', h, hvalues⟩ : ∃ b hub', matchWords 0 ["bob", "ann"] "" Hub.pair = .ok b hub' ∧
      b.values = [(["user"], "ann")] := ⟨_, _, rfl, rfl⟩
  exact ⟨rfl, b, hub', h, hvalues, snapshot_entries hcommand h⟩

end HubM

end Chatline
