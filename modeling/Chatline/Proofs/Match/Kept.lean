import Chatline.Proofs.Grammar.Layout
import Chatline.Proofs.Match.Trail
import Chatline.Proofs.Hub.Run
import Mathlib.Data.List.Induction
import Mathlib.Data.List.Nodup
/-!
# What a match leaves behind

`HubM.matchWords` writes the values of a match into the slots, logs its remarks
and the words it ignores, and takes a snapshot. A match that succeeds is told
by its trail alone: `matchWords_of_trail` gives the bindings and the hub that a
trail leads to, and `trail_of_matchWords` finds the trail of a match that
succeeded.
-/

namespace Chatline

/-! ## The slots after a match -/

/-- The slots after the values of a match were written, in order. -/
def written (store : List Slot) (bound : List Binding) : List Slot :=
  bound.foldl (fun store b => store.modify b.slot (·.holding b.value)) store

section Written

variable {store : List Slot} {bound : List Binding} {b : Binding} {id : SlotId}

/-- The last of some bindings for a slot. -/
def lastFor? (bound : List Binding) (id : SlotId) : Option Binding :=
  bound.reverse.find? (·.slot == id)

/-- The slot after the values of a match were written. -/
def Slot.after (slot : Slot) : Option Binding → Slot
  | some b => slot.holding b.value
  | none => slot

/-- What the last binding for a slot is if there is one more. -/
theorem lastFor?_append_singleton :
    lastFor? (bound ++ [b]) id = if b.slot = id then some b else lastFor? bound id := by
  rw [lastFor?, List.reverse_append, List.reverse_singleton, List.singleton_append,
    List.find?_cons]
  by_cases h : b.slot = id
  · rw [if_pos h, beq_iff_eq.2 h]
  · rw [if_neg h, beq_eq_false_iff_ne.2 h]
    rfl

/-- A slot that was bound has a last binding. -/
theorem lastFor?_of_mem (h : id ∈ bound.map Binding.slot) :
    ∃ b ∈ bound, b.slot = id ∧ lastFor? bound id = some b := by
  cases hlast : lastFor? bound id with
  | some b =>
    have hmem := List.mem_of_find?_eq_some hlast
    have hslot := List.find?_some hlast
    exact ⟨b, List.mem_reverse.1 hmem, beq_iff_eq.1 hslot, rfl⟩
  | none =>
    obtain ⟨b, hb, hslot⟩ := List.mem_map.1 h
    have hne := List.find?_eq_none.1 hlast b (List.mem_reverse.2 hb)
    exact absurd (beq_iff_eq.2 hslot) hne

/-- A slot that was not bound has none. -/
theorem lastFor?_of_notMem (h : id ∉ bound.map Binding.slot) : lastFor? bound id = none := by
  refine List.find?_eq_none.2 fun b hb hslot => ?_
  exact h (List.mem_map.2 ⟨b, List.mem_reverse.1 hb, beq_iff_eq.1 hslot⟩)

/-- The last binding is written last. -/
theorem written_append_singleton :
    written store (bound ++ [b]) = (written store bound).modify b.slot (·.holding b.value) := by
  rw [written, List.foldl_append]
  rfl

/-- **What is written**: each slot holds the value of the last binding for it. -/
theorem written_getElem? (store : List Slot) (bound : List Binding) (id : SlotId) :
    (written store bound)[id]? = (store[id]?).map (·.after (lastFor? bound id)) := by
  induction bound using List.reverseRecOn with
  | nil => exact Option.map_id'.symm
  | append_singleton bound b ih =>
    rw [written_append_singleton, lastFor?_append_singleton]
    by_cases h : b.slot = id
    · rw [if_pos h, h, List.getElem?_modify_eq, ih, Option.map_eq_map, Option.map_map]
      cases lastFor? bound id <;> rfl
    · rw [if_neg h, List.getElem?_modify_ne _ _ h, ih]

/-- Writing leaves the other slots alone. -/
theorem written_getElem?_of_notMem (h : id ∉ bound.map Binding.slot) :
    (written store bound)[id]? = store[id]? := by
  rw [written_getElem?, lastFor?_of_notMem h]
  exact Option.map_id'

/-- Writing changes values alone. -/
theorem alike_written : Grammar.Alike (written store bound) store := by
  refine List.ext_getElem? fun i => ?_
  rw [List.getElem?_map, List.getElem?_map, written_getElem?, Option.map_map]
  cases lastFor? bound i <;> rfl

/-- A slot that was written holds the value of the last binding for it. -/
theorem current_written_of_mem (hid : id ∈ bound.map Binding.slot) (hlt : id < store.length) :
    ∃ b ∈ bound, b.slot = id ∧ lastFor? bound id = some b ∧
      Bindings.current (written store bound) id = b.value := by
  obtain ⟨b, hb, hslot, hlast⟩ := lastFor?_of_mem hid
  refine ⟨b, hb, hslot, hlast, ?_⟩
  rw [Bindings.current, written_getElem?, List.getElem?_eq_getElem hlt, hlast]
  rfl

/-- Where no slot is bound twice, each bound slot holds its value. -/
theorem current_written_of_nodup (hnd : (bound.map Binding.slot).Nodup) (hb : b ∈ bound)
    (hlt : b.slot < store.length) :
    Bindings.current (written store bound) b.slot = b.value := by
  obtain ⟨b', hb', hslot, -, hvalue⟩ := current_written_of_mem (List.mem_map_of_mem hb) hlt
  rw [hvalue, List.inj_on_of_nodup_map hnd hb' hb hslot]

end Written

/-! ## Trails in a store -/

namespace Grammar

variable {store : List Slot} {path : Path} {g : Grammar} {words : List String}
variable {fs : List Filling} {halt : Halt} {f : Filling}

/-- **A trail fills slots of the store**, each as the store holds it. -/
theorem Trail.heldIn (h : Trail path g words fs halt) (hg : g.HeldIn store) :
    ∀ f ∈ fs, store[f.id]? = some f.slot ∧ f.children.HeldIn store := by
  intro f hf
  obtain ⟨rest, hslot, hchildren, -⟩ := h.reaches hereditary_heldIn hg f hf
  exact ⟨hslot, hchildren⟩

/-- The values that a trail gave. -/
def boundBy (fs : List Filling) : List Binding := fs.map Filling.binding

/-- The slots that a trail gave values to. -/
@[simp] theorem boundBy_map_slot : (boundBy fs).map Binding.slot = fs.map Filling.id := by
  rw [boundBy, List.map_map]
  rfl

/-- **Where no slot stands in two places**, each filled slot holds the value it
was given once the match is over. -/
theorem Trail.current_written (h : Trail path g words fs halt) (hg : g.HeldIn store)
    (hnd : g.ids.Nodup) (hf : f ∈ fs) :
    Bindings.current (written store (boundBy fs)) f.id = f.value := by
  obtain ⟨hslot, -⟩ := h.heldIn hg f hf
  refine current_written_of_nodup (b := f.binding) ?_ (List.mem_map_of_mem hf)
    (List.getElem?_eq_some_iff.1 hslot).1
  rw [boundBy_map_slot]
  exact hnd.sublist h.ids_sublist

end Grammar

/-! ## The bindings and the log of a match -/

namespace Command

/-- The record of the words that a match left over, if there are any. -/
def leftRecord (command : Command) (left : List String) : List Event :=
  if left = [] then []
  else [.log .matcher
    ("ignoring " ++ toString left.length ++ " unmatched token(s) for " ++
      Text.quoted command.name ++ ": " ++ Text.quotedList left)]

end Command

namespace Grammar

/-- The records that a trail leaves in the log: the defaults that stood in, and
the words that are left over. -/
def recordsOf (command : Command) (fs : List Filling) (halt : Halt) : List Event :=
  (fs.filterMap Filling.remark?).map (.log .matcher) ++ command.leftRecord halt.left

end Grammar

namespace Hub

open Grammar

/-- The hub after a match with a trail. -/
def kept (hub : Hub) (command : Command) (fs : List Filling) (halt : Halt) : Hub :=
  (hub.storing (written hub.slots (boundBy fs))).logged (recordsOf command fs halt)

/-- The bindings that a match with a trail gives. -/
def snapshotOf (hub : Hub) (command : Command) (fs : List Filling) : Bindings :=
  Bindings.snapshot (written hub.slots (boundBy fs)) (fs.map fun f => (f.path, f.id))
    command.arguments

variable {hub : Hub} {command : Command} {fs : List Filling} {halt : Halt}

@[simp] theorem kept_events :
    (hub.kept command fs halt).events = hub.events ++ recordsOf command fs halt := rfl

/-- The bound slots are the filled ones, in order. -/
@[simp] theorem snapshotOf_arguments :
    (hub.snapshotOf command fs).arguments = fs.map Filling.id := by
  show (fs.map fun f => (f.path, f.id)).map Prod.snd = fs.map Filling.id
  rw [List.map_map]
  rfl

/-- The bound values are those that the filled slots hold, each at its path. -/
theorem snapshotOf_values :
    (hub.snapshotOf command fs).values = fs.foldl (fun ledger f =>
      Ledger.put ledger f.path (Bindings.current (written hub.slots (boundBy fs)) f.id)) [] := by
  rw [snapshotOf, Bindings.snapshot, List.foldl_map]

/-- Where no slot stands in two places these are the values of the trail. -/
theorem snapshotOf_values_of_nodup {words : List String}
    (h : Trail [] (layOut hub.slots command.arguments) words fs halt)
    (hnd : (layOut hub.slots command.arguments).ids.Nodup) :
    (hub.snapshotOf command fs).values =
      (boundBy fs).foldl (fun ledger x => Ledger.put ledger x.path x.value) [] := by
  have hbound : (boundBy fs).foldl (fun ledger x => Ledger.put ledger x.path x.value) [] =
      fs.foldl (fun ledger f => Ledger.put ledger f.path f.value) [] := List.foldl_map
  rw [snapshotOf_values, hbound]
  exact List.foldl_ext _ _ _ fun ledger f hf => by
    rw [h.current_written (heldIn_layOut _) hnd hf]

/-- A hub with one command: `mail` reads, or sends a text to a user. -/
def mail : Hub where
  slots :=
    [{ name := "mode", optional := true, isEnum := true, default := some "READ", value := "READ",
       children := [1, 2] },
     { name := "read" }, { name := "send", children := [3, 4] }, { name := "user" },
     { name := "text", optional := true }]
  commands := [{ name := "Mail", aliases := ["mail"], arguments := [0] }]

end Hub

namespace HubM

open Grammar

variable {hub hub' : Hub} {id : CommandId} {command : Command} {words : List String}
variable {usage : String} {b : Bindings} {fs : List Filling} {halt : Halt}

/-- Writing the values of a match. -/
theorem writeAll_eq (bound : List Binding) (hub : Hub) :
    writeAll bound hub = .ok () (hub.storing (written hub.slots bound)) := rfl

/-- What is kept of an outcome with a trail. -/
theorem keepMatch_outcomeOf (command : Command) (fs : List Filling) (halt : Halt) (hub : Hub) :
    keepMatch command (outcomeOf fs halt) [] hub =
      .ok (hub.snapshotOf command fs) (hub.kept command fs halt) := by
  have hresult : conclude (outcomeOf fs halt).result = pure halt.left := rfl
  rw [keepMatch, bind_ok (writeAll_eq _ _), bind_ok (forM_log _ _ _), hresult, pure_bind]
  have hpaths : (boundBy fs).map (fun b => (b.path, b.slot)) = fs.map fun f => (f.path, f.id) := by
    rw [boundBy, List.map_map]
    rfl
  rw [Hub.kept, recordsOf, ← Hub.logged_logged, Hub.snapshotOf, ← hpaths]
  cases hleft : halt.left with
  | nil =>
    rw [Command.leftRecord, if_pos rfl, Hub.logged_nil]
    rfl
  | cons word later =>
    -- the words are counted as they are and listed in quotes
    simp only [List.append_nil]
    have hlength : (word :: later).length = ((word :: later).map Text.quoted).length := by
      rw [List.length_map]
    rw [Command.leftRecord, if_neg (List.cons_ne_nil _ _), Text.quotedList, hlength]
    rfl

/-- A match that leaves bindings succeeded. -/
theorem keepMatch_eq_ok {outcome : Outcome}
    (h : keepMatch command outcome [] hub = .ok b hub') :
    ∃ left, outcome.result = .ok left := by
  rw [keepMatch, bind_ok (writeAll_eq _ _), bind_ok (forM_log _ _ _)] at h
  obtain ⟨left, _, hresult, -⟩ := bind_eq_ok h
  refine ⟨left, ?_⟩
  cases houtcome : outcome.result with
  | ok _ => rw [houtcome] at hresult; cases hresult; rfl
  | error _ => rw [houtcome] at hresult; cases hresult

/-- An outcome that failed gives no bindings. -/
theorem keepMatch_of_error (command : Command) {outcome : Outcome} {failure : Failure}
    (h : outcome.result = .error failure) (hub : Hub) :
    ∃ hub', keepMatch command outcome [] hub = .error failure hub' := by
  have hresult : ∀ x : Hub, (conclude outcome.result : HubM _) x = .error failure x := by
    intro x
    rw [h]
    rfl
  rw [keepMatch, bind_ok (writeAll_eq _ _), bind_ok (forM_log _ _ _), bind_error (hresult _)]
  exact ⟨_, rfl⟩

/-- A match of words is what is kept of its outcome. -/
theorem matchWords_eq (hc : hub.commands[id]? = some command) :
    matchWords id words usage hub =
      keepMatch command ((layOut hub.slots command.arguments).walk usage [] words) [] hub := by
  rw [matchWords, bind_ok (command_eq hc), bind_ok (grammar_eq _ _)]

/-- **What a trail leads to.** -/
theorem matchWords_of_trail (hc : hub.commands[id]? = some command)
    (h : Trail [] (layOut hub.slots command.arguments) words fs halt) :
    matchWords id words usage hub =
      .ok (hub.snapshotOf command fs) (hub.kept command fs halt) := by
  rw [matchWords_eq hc, walk_eq_of_trail h, keepMatch_outcomeOf]

/-- **A match that succeeds is told by a trail.** -/
theorem trail_of_matchWords (hc : hub.commands[id]? = some command)
    (h : matchWords id words usage hub = .ok b hub') :
    ∃ fs halt, Trail [] (layOut hub.slots command.arguments) words fs halt ∧
      b = hub.snapshotOf command fs ∧ hub' = hub.kept command fs halt := by
  obtain ⟨left, hleft⟩ := keepMatch_eq_ok ((matchWords_eq hc).symm.trans h)
  obtain ⟨fs, halt, htrail, -⟩ := exists_trail hleft
  rw [matchWords_of_trail hc htrail] at h
  cases h
  exact ⟨fs, halt, htrail, rfl, rfl⟩

end HubM

end Chatline
