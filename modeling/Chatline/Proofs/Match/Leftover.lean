import Chatline.Proofs.Dispatch.Restored
import Chatline.Proofs.Grammar.Acyclic
import Chatline.Proofs.Hub.History
import Chatline.Proofs.Match.Snapshot
/-!
# What matches before leave behind

Slots keep the values that a match gives them until they are given others or are reset,
and a match resets none. So a look-up at a slot that a match did not reach gives what the
slot held before (`lookup_of_unbound`): the value of the last match that bound it, also of
one that failed, and its fallback only if there was none. `lookup_unreached` says this of
what was built by builder calls, after any matches.
-/

namespace Chatline

open Grammar

namespace Grammar

variable {store s t : List Slot} {roots ids : List SlotId} {depth n : Nat} {path inner : Path}
variable {i : SlotId} {slot : Slot} {g : Grammar}

/-- Names are not values. -/
theorem namesApart_blank : g.blank.NamesApart ↔ g.NamesApart := by
  induction g with
  | nil => exact Iff.rfl
  | cons id slot children rest ihc ihr =>
    rw [blank, NamesApart, NamesApart, ihc, ihr, siblings_blank, List.forall_mem_map]
    exact Iff.rfl

theorem Alike.namesApart (h : Alike s t) (ids : List SlotId) :
    (Grammar.layOut s ids).NamesApart ↔ (Grammar.layOut t ids).NamesApart := by
  rw [← namesApart_blank, h.layOut ids, namesApart_blank]

/-- The places below a slot of a whole grammar are among its places, however many levels
of them are laid out. -/
theorem places_below_subset (h : Shallow store depth ids) (hle : depth ≤ n)
    (hplace : (inner, i) ∈ (unfold store depth ids).places path) (hslot : store[i]? = some slot) :
    (unfold store n slot.children).places inner ⊆ (unfold store depth ids).places path := by
  -- on the way down to the slot, level by level and along the roots of each level
  induction depth generalizing ids path with
  | zero => cases hplace
  | succ depth ihd =>
    induction ids with
    | nil => cases hplace
    | cons j ids ih =>
      have hrest := ih h.of_cons
      cases hj : store[j]? with
      | none =>
        rw [unfold_cons_of_none hj] at hplace ⊢
        exact hrest hplace
      | some other =>
        have hchildren := h j List.mem_cons_self other hj
        rw [unfold_cons_of_some hj, places, List.mem_cons, List.mem_append] at hplace
        rw [unfold_cons_of_some hj, places]
        rcases hplace with heq | hbelow | hbeside
        · -- it is this slot, and the levels below it that are laid out are all there are
          cases heq
          rw [hslot] at hj
          cases hj
          rw [unfold_of_shallow hchildren (by omega)]
          exact fun place hmem => List.mem_cons_of_mem _ (List.mem_append_left _ hmem)
        · exact fun place hmem => List.mem_cons_of_mem _
            (List.mem_append_left _ (ihd hchildren (by omega) hbelow hmem))
        · exact fun place hmem => List.mem_cons_of_mem _
            (List.mem_append_right _ (hrest hbeside hmem))

end Grammar

namespace Bindings

variable {store : List Slot} {bound : List (Path × SlotId)} {roots : List SlotId} {path : Path}
variable {i : SlotId} {b : Bindings}

/-- Texts make a path, and one that can be a key. -/
theorem lookup_path (b : Bindings) (path : Path) :
    b.lookup (.tuple (path.map .text)) =
      Option.elim (b.atPath? path) (.error .unknownKey) .ok := by
  have hkey : Datum.changeableAmong? (path.map Datum.text) = none := by
    induction path with
    | nil => rfl
    | cons name path ih =>
      rw [List.map_cons, Datum.changeableAmong?, ih]
      rfl
  have hpath : pathOf? (path.map Datum.text) = some path := by
    clear hkey
    induction path with
    | nil => rfl
    | cons name path ih =>
      rw [List.map_cons, pathOf?, ih]
      rfl
  simp only [lookup, hkey, hpath, Option.bind_some]

/-- Where no slot stands below itself, what is laid out again below a bound slot stands in the
grammar already. -/
theorem places_behind_subset (hacyclic : Acyclic store roots)
    (hbound : bound ⊆ (layOut store roots).places []) :
    (bound.map fun (path, id) => placesBelow store path id).flatten ++
      (layOut store roots).places [] ⊆ (layOut store roots).places [] := by
  intro place hplace
  rcases List.mem_append.1 hplace with hbelow | hroots
  · obtain ⟨ledger, hledger, hin⟩ := List.mem_flatten.1 hbelow
    obtain ⟨⟨outer, id⟩, hb, rfl⟩ := List.mem_map.1 hledger
    have hbelow : place ∈
        (layOut store ((store[id]?.map (·.children)).getD [])).places outer := hin
    cases hslot : store[id]? with
    | none =>
      have hnil : layOut store [] = nil := by
        rw [layOut]
        cases store.length <;> rfl
      rw [hslot, Option.map_none, Option.getD_none, hnil] at hbelow
      cases hbelow
    | some slot =>
      rw [hslot] at hbelow
      exact places_below_subset (shallow_of_acyclic hacyclic) (Nat.le_refl _) (hbound hb) hslot
        hbelow
  · exact hroots

/-- So nothing else stands behind the bound slots. -/
theorem behind_subset (hacyclic : Acyclic store roots)
    (hbound : bound ⊆ (layOut store roots).places []) :
    behind store bound roots ⊆ (layOut store roots).places [] := by
  intro place hplace
  rcases Ledger.mem_putAllNew (List.mem_filter.1 hplace).1 with hnil | hmem
  · cases hnil
  · exact places_behind_subset hacyclic hbound hmem

/-- Every path of the grammar that was not bound stands behind. -/
theorem mem_keys_behind {place : Path × SlotId} (hplace : place ∈ (layOut store roots).places [])
    (hfree : place.1 ∉ bound.map Prod.fst) :
    place.1 ∈ (behind store bound roots).map Prod.fst := by
  have hkey : place.1 ∈ ((bound.map fun (path, id) => placesBelow store path id).flatten ++
      (layOut store roots).places []).map Prod.fst :=
    List.mem_map_of_mem (List.mem_append_right _ hplace)
  obtain ⟨entry, hentry, hsame⟩ := List.mem_map.1 (Ledger.mem_keys_putAllNew.2 (Or.inr hkey) :
    place.1 ∈ (Ledger.putAllNew [] _).map Prod.fst)
  refine List.mem_map.2 ⟨entry, List.mem_filter.2 ⟨hentry, ?_⟩, hsame⟩
  rw [Bool.not_eq_true', List.any_eq_false]
  intro b hb heq
  exact hfree (List.mem_map.2 ⟨b, hb, (beq_iff_eq.1 heq).trans hsame⟩)

/-- **What stands behind the bound slots** at the path of another slot is this slot, where
siblings have different names and no slot stands below itself. -/
theorem behind_value? (hacyclic : Acyclic store roots) (hnames : (layOut store roots).NamesApart)
    (hbound : bound ⊆ (layOut store roots).places [])
    (hplace : (path, i) ∈ (layOut store roots).places []) (hi : path ∉ bound.map Prod.fst) :
    (behind store bound roots).value? path = some i := by
  refine Ledger.value?_of_forall (mem_keys_behind hplace hi) ?_
  rintro ⟨other, j⟩ hother rfl
  have hmem := behind_subset hacyclic hbound hother
  exact congrArg Prod.snd (List.inj_on_of_nodup_map (nodup_places hnames) hmem hplace rfl)

end Bindings

namespace HubM

variable {hub hub' : Hub} {id : CommandId} {command : Command} {words : List String}
variable {usage : String} {b : Bindings} {path : Path} {i : SlotId}

/-- **A look-up at a slot that a match did not bind** gives what the slot held before. -/
theorem lookup_of_unbound (hc : hub.commands[id]? = some command)
    (hacyclic : Acyclic hub.slots command.arguments)
    (hnames : (layOut hub.slots command.arguments).NamesApart)
    (h : matchWords id words usage hub = .ok b hub')
    (hplace : (path, i) ∈ (layOut hub.slots command.arguments).places []) (hi : i ∉ b.arguments) :
    b.lookup (.tuple (path.map .text)) = .ok (Bindings.current hub.slots i) := by
  obtain ⟨fs, halt, htrail, rfl, rfl⟩ := trail_of_matchWords hc h
  rw [Hub.snapshotOf_arguments] at hi
  have hbound : (fs.map fun f => (f.path, f.id)) ⊆ (layOut hub.slots command.arguments).places [] :=
    htrail.places_sublist.subset
  -- the path of the slot leads to no other, so nothing was bound there
  have hpath : path ∉ (fs.map fun f => (f.path, f.id)).map Prod.fst := by
    intro hmem
    obtain ⟨⟨_, j⟩, hj, rfl⟩ := List.mem_map.1 hmem
    have heq := List.inj_on_of_nodup_map (nodup_places hnames) (hbound hj) hplace rfl
    obtain ⟨f, hf, hfj⟩ := List.mem_map.1 hj
    cases hfj
    cases heq
    exact hi (List.mem_map_of_mem hf)
  have hvalues : (hub.snapshotOf command fs).values.value? path = none := by
    refine Ledger.value?_of_notMem fun hkey => hpath ?_
    rw [Hub.snapshotOf_values] at hkey
    rw [List.map_map]
    exact Ledger.keys_foldl_put_subset hkey
  have hdescendants : (hub.snapshotOf command fs).descendants.value? path =
      some (Bindings.current hub.slots i) := by
    rw [Hub.snapshotOf_descendants, Ledger.value?_mapValues,
      Bindings.behind_value? hacyclic hnames hbound hplace hpath, Option.map_some,
      current_written_of_notMem]
    rwa [boundBy_map_slot]
  rw [Bindings.lookup_path, Bindings.atPath?, hvalues]
  dsimp only
  rw [hdescendants]
  rfl

end HubM

/-! ## After any matches -/

namespace Hub

variable {hub : Hub} {id : CommandId} {command : Command} {words : List String}
variable {earlier : List (List String × String)}

/-- The hub after some matches against the grammar of a command, each of words and with a
usage line, whether or not they succeeded. -/
def afterMatches (hub : Hub) (id : CommandId) (earlier : List (List String × String)) : Hub :=
  earlier.foldl (fun hub m => (HubM.matchWords id m.1 m.2).after hub) hub

/-- What some matches against the grammar of a command give values to, one after the
other. -/
def boundBefore (hub : Hub) (command : Command) (earlier : List (List String × String)) :
    List Binding :=
  (earlier.map fun m => hub.boundIn command m.2 m.1).flatten

/-- What a match leaves: its values are written, also if it failed. -/
theorem after_match (hc : hub.commands[id]? = some command) (words : List String)
    (usage : String) :
    ((HubM.matchWords id words usage).after hub).slots =
        written hub.slots (hub.boundIn command usage words) ∧
      ((HubM.matchWords id words usage).after hub).commands = hub.commands := by
  obtain ⟨records, hafter⟩ := HubM.after_keepMatch command
    ((layOut hub.slots command.arguments).walk usage [] words) [] hub
  have hrun : (HubM.matchWords id words usage).after hub = (HubM.keepMatch command
      ((layOut hub.slots command.arguments).walk usage [] words) []).after hub := by
    rw [HubM.after, HubM.after, HubM.matchWords_eq hc]
  rw [hrun, hafter]
  exact ⟨rfl, rfl⟩

/-- **What matches leave**: all their values are written, one after the other. -/
theorem afterMatches_same (hc : hub.commands[id]? = some command)
    (earlier : List (List String × String)) :
    (hub.afterMatches id earlier).slots = written hub.slots (hub.boundBefore command earlier) ∧
      (hub.afterMatches id earlier).commands = hub.commands := by
  induction earlier generalizing hub with
  | nil => exact ⟨rfl, rfl⟩
  | cons m earlier ih =>
    obtain ⟨hslots, hcommands⟩ := after_match hc m.1 m.2
    have hc' : ((HubM.matchWords id m.1 m.2).after hub).commands[id]? = some command :=
      hcommands ▸ hc
    obtain ⟨hlater, hsame⟩ := ih hc'
    have halike : Alike ((HubM.matchWords id m.1 m.2).after hub).slots hub.slots := by
      rw [hslots]
      exact alike_written
    have hbound : ((HubM.matchWords id m.1 m.2).after hub).boundBefore command earlier =
        hub.boundBefore command earlier :=
      congrArg List.flatten (List.map_congr_left fun m' _ =>
        congrArg Outcome.bound (halike.walk command.arguments))
    have hwritten : written (written hub.slots (hub.boundIn command m.2 m.1))
        (hub.boundBefore command earlier) =
          written hub.slots (hub.boundBefore command (m :: earlier)) :=
      List.foldl_append.symm
    rw [hbound, hslots, hwritten] at hlater
    exact ⟨hlater, hsame.trans hcommands⟩

end Hub

open HubM

variable {id : CommandId} {command : Command} {words : List String} {usage : String}
variable {b : Bindings} {hub' : Hub}

/-- **Arguments that a match does not reach.** Let a command be built by builder calls such
that no two siblings have one name, no slot stands below itself, and no slot was given
two defaults. After any matches against its grammar, bindings that a match gives look up
at a slot that the match did not bind the value of the last match before that bound it,
and its default if none did. So this is the default if and only if the slot was bound to
it, or to nothing, before. -/
theorem lookup_unreached (calls : List BuilderCall) (earlier : List (List String × String))
    (hc : (construct calls).hub.commands[id]? = some command)
    (hacyclic : Acyclic (construct calls).hub.slots command.arguments)
    (hnames : (layOut (construct calls).hub.slots command.arguments).NamesApart)
    (hgiven : ∀ i ∈ (layOut (construct calls).hub.slots command.arguments).ids,
      ((construct calls).given i).length ≤ 1)
    (h : matchWords id words usage ((construct calls).hub.afterMatches id earlier) = .ok b hub') :
    ∀ path i slot,
      (path, i) ∈ (layOut (construct calls).hub.slots command.arguments).places [] →
      (construct calls).hub.slots[i]? = some slot → i ∉ b.arguments →
      b.lookup (.tuple (path.map .text)) =
          .ok (((lastFor? ((construct calls).hub.boundBefore command earlier) i).map
            Binding.value).getD (slot.default.getD "")) ∧
        (b.lookup (.tuple (path.map .text)) = .ok (slot.default.getD "") ↔
          ∀ x, lastFor? ((construct calls).hub.boundBefore command earlier) i = some x →
            x.value = slot.default.getD "") := by
  intro path i slot hplace hslot hi
  obtain ⟨hslots, hcommands⟩ := Hub.afterMatches_same hc earlier
  have halike : Alike ((construct calls).hub.afterMatches id earlier).slots
      (construct calls).hub.slots := by
    rw [hslots]
    exact alike_written
  have hlookup := lookup_of_unbound (hcommands ▸ hc) (halike.acyclic hacyclic)
    ((halike.namesApart _).2 hnames) h (halike.places [] _ ▸ hplace) hi
  -- the slot was built with its default in it
  have hfallback : slot.value = slot.default.getD "" := by
    have hsame : firstGiven ((construct calls).given i) = lastGiven ((construct calls).given i) :=
      firstGiven_eq_lastGiven (hgiven i (places_map_snd ▸ List.mem_map_of_mem hplace))
    exact value_eq_fallback_iff.2 hsame slot hslot
  rw [hlookup, Bindings.current, hslots, written_getElem?, hslot]
  cases lastFor? ((construct calls).hub.boundBefore command earlier) i with
  | none =>
    have hvalue : (.ok (slot.after none).value : Except Failure String) =
      .ok (slot.default.getD "") := congrArg Except.ok hfallback
    refine ⟨hvalue, iff_of_true hvalue fun x hx => ?_⟩
    cases hx
  | some x =>
    refine ⟨rfl, fun h y hy => ?_, fun h => congrArg Except.ok (h x rfl)⟩
    cases hy
    exact Except.ok.inj h

/-- Calls that build a command for mail, which reads or sends to a user. -/
def postCalls : List BuilderCall :=
  [.newSlot "mode" false, .newSlot "read" false, .newSlot "send" false, .newSlot "user" false,
   .addNested 2 3, .addOption 0 1, .addOption 0 2, .newCommand "Mail",
   .onCommand 0 (.addAlias "mail"), .addArgument 0 0]

/-- The command passes the check, and reading mail after sending some to Bob gives bindings
that look up Bob as the user, who has no default. -/
theorem bob_left_over :
    (validate 0).ended (construct postCalls).hub = .ok () ∧
      ∃ b hub', matchWords 0 ["read"] ""
          ((construct postCalls).hub.afterMatches 0 [(["send", "bob"], "")]) = .ok b hub' ∧
        3 ∉ b.arguments ∧
        b.lookup (.tuple [.text "mode", .text "send", .text "user"]) = .ok "bob" := by
  have hslots : (construct postCalls).hub.slots =
      [{ name := "mode", isEnum := true, children := [1, 2] }, { name := "read" },
       { name := "send", children := [3] }, { name := "user" }] := rfl
  have hacyclic : Acyclic (construct postCalls).hub.slots [0] := by
    rw [hslots]
    exact acyclic_of_lt (by decide)
  have hcommand : (construct postCalls).hub.commands[0]? =
      some { name := "Mail", aliases := ["mail"], arguments := [0] } := rfl
  obtain ⟨b, hub', hb, harguments⟩ : ∃ b hub', matchWords 0 ["read"] ""
      ((construct postCalls).hub.afterMatches 0 [(["send", "bob"], "")]) = .ok b hub' ∧
        b.arguments = [0] := ⟨_, _, rfl, rfl⟩
  have hfree : 3 ∉ b.arguments := by
    rw [harguments]
    decide
  have hleft := (lookup_unreached postCalls [(["send", "bob"], "")] hcommand hacyclic
    (by decide) (by decide) hb ["mode", "send", "user"] 3 { name := "user" } (by decide) rfl hfree).1
  exact ⟨rfl, b, hub', hb, hfree, hleft⟩

end Chatline
