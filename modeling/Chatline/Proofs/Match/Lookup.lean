import Chatline.Proofs.Match.Leftover
/-!
# What bindings answer for

A name is looked up in the paths of the bindings, and found in a grammar by going through
the tree. Both come to the same: `lookup_covers` says that bindings answer for the names of
the grammar and for no others, and, where slots are told apart by their paths, for its
paths and for no others, and with which values.
-/

namespace Chatline

open Grammar

namespace Grammar

/-- **That the slots of a grammar can be told apart** by their paths. -/
structure Distinct (store : List Slot) (roots : List SlotId) : Prop where
  /-- No slot stands below itself. -/
  acyclic : Acyclic store roots
  /-- No slot stands in two places. -/
  unshared : (layOut store roots).ids.Nodup
  /-- No two siblings have one name. -/
  namesApart : (layOut store roots).NamesApart

end Grammar

namespace Bindings

variable {store : List Slot} {bound : List (Path × SlotId)} {roots : List SlotId} {path : Path}
variable {g : Grammar} {b : Bindings} {name : String} {place : Path × SlotId}

/-! ## Names -/

@[simp] theorem endsIn_append_singleton (name last : String) (path : Path) :
    endsIn name (path ++ [last]) = Text.sameFolded last name := by
  simp [endsIn]

/-- A place ends in the name of its slot. -/
theorem endsIn_of_mem_places (h : g.HeldIn store) (hplace : place ∈ g.places path) :
    ∃ slot, store[place.2]? = some slot ∧
      ∀ name, endsIn name place.1 = Text.sameFolded slot.name name := by
  induction g generalizing path with
  | nil => cases hplace
  | cons id slot children rest ihc ihr =>
    obtain ⟨hslot, hchildren, hrest⟩ := h
    rw [places, List.mem_cons, List.mem_append] at hplace
    rcases hplace with rfl | hbelow | hbeside
    · exact ⟨slot, hslot, fun name => endsIn_append_singleton name slot.name path⟩
    · exact ihc hchildren hbelow
    · exact ihr hrest hbeside

end Bindings

/-- **A name is found** in a grammar if and only if one of the places ends in it. -/
theorem Grammar.find?_isSome_iff {g : Grammar} {name : String} (path : Path) :
    (g.find? name).isSome ↔ ∃ place ∈ g.places path, Bindings.endsIn name place.1 = true := by
  induction g generalizing path with
  | nil => simp [find?, places]
  | cons id slot children rest ihc ihr =>
    have hchildren := ihc (path ++ [slot.name])
    have hrest := ihr path
    rw [find?, places]
    simp only [List.exists_mem_cons_iff, List.mem_append, or_and_right, exists_or,
      Bindings.endsIn_append_singleton, ← hchildren, ← hrest]
    cases Text.sameFolded slot.name name with
    | true => simp
    | false => cases find? name children <;> simp

namespace Bindings

variable {store : List Slot} {bound : List (Path × SlotId)} {roots : List SlotId} {path : Path}
variable {b : Bindings} {name : String} {place : Path × SlotId}

/-- A name in which a place behind the bound ones ends is found in the grammar, also where a
slot stands below itself and so is laid out again under other paths. -/
theorem exists_place_of_behind (hbound : ∀ b ∈ bound, b.2 ∈ (layOut store roots).ids)
    (hplace : place ∈ behind store bound roots) (hends : endsIn name place.1 = true) :
    ∃ place ∈ (layOut store roots).places [], endsIn name place.1 = true := by
  have hid := mem_ids_of_behind hplace hbound
  obtain ⟨path, ids, hlaid⟩ : ∃ path ids, place ∈ (layOut store ids).places path := by
    rcases Ledger.mem_putAllNew (List.mem_filter.1 hplace).1 with hnil | hmem
    · cases hnil
    · rcases List.mem_append.1 hmem with hbelow | hroots
      · obtain ⟨ledger, hledger, hin⟩ := List.mem_flatten.1 hbelow
        obtain ⟨b, -, rfl⟩ := List.mem_map.1 hledger
        exact ⟨_, _, hin⟩
      · exact ⟨_, _, hroots⟩
  obtain ⟨other, hother, hsame⟩ := exists_place [] hid
  -- the two places are of one slot, so they end in one name
  obtain ⟨slot, hslot, hname⟩ := endsIn_of_mem_places (heldIn_layOut ids) hlaid
  obtain ⟨slot', hslot', hname'⟩ := endsIn_of_mem_places (heldIn_layOut roots) hother
  rw [hsame, hslot] at hslot'
  cases hslot'
  refine ⟨other, hother, ?_⟩
  rw [hname' name, ← hname name, hends]

/-- **A name is looked up** with success if and only if one of the paths ends in it. -/
theorem named?_isSome_iff :
    (b.named? name).isSome ↔
      ∃ path ∈ b.values.map Prod.fst ++ b.descendants.map Prod.fst, endsIn name path = true := by
  rw [named?]
  cases hfind : b.values.find? (fun entry => endsIn name entry.1) with
  | some entry =>
    have hmem := List.mem_of_find?_eq_some hfind
    have hends := List.find?_some hfind
    exact iff_of_true rfl
      ⟨entry.1, List.mem_append_left _ (List.mem_map_of_mem hmem), hends⟩
  | none =>
    have hnone := List.find?_eq_none.1 hfind
    simp only [Option.isSome_map, List.find?_isSome]
    constructor
    · rintro ⟨entry, hentry, hends⟩
      exact ⟨entry.1, List.mem_append_right _ (List.mem_map_of_mem hentry), hends⟩
    · rintro ⟨path, hpath, hends⟩
      rcases List.mem_append.1 hpath with hvalue | hbehind
      · obtain ⟨entry, hentry, rfl⟩ := List.mem_map.1 hvalue
        exact absurd hends (hnone entry hentry)
      · obtain ⟨entry, hentry, rfl⟩ := List.mem_map.1 hbehind
        exact ⟨entry, hentry, hends⟩

theorem lookup_name (b : Bindings) (name : String) :
    b.lookup (.text name) = Option.elim (b.named? name) (.error .unknownKey) .ok := rfl

/-- A path that is no key leads nowhere. -/
theorem lookup_unknown (hvalues : path ∉ b.values.map Prod.fst)
    (hdescendants : path ∉ b.descendants.map Prod.fst) :
    b.lookup (.tuple (path.map .text)) = .error .unknownKey := by
  rw [lookup_path, atPath?, Ledger.value?_of_notMem hvalues]
  dsimp only
  rw [Ledger.value?_of_notMem hdescendants]
  rfl

end Bindings

namespace Hub

open Bindings

variable {hub : Hub} {command : Command} {words : List String} {fs : List Filling} {halt : Halt}
variable {path : Path} {i : SlotId}

/-- The bound paths are those of the filled slots. -/
theorem mem_keys_values :
    path ∈ (hub.snapshotOf command fs).values.map Prod.fst ↔ path ∈ fs.map Filling.path := by
  have hkeys := Ledger.hasKey_foldl_put Filling.path
    (fun f => Bindings.current (written hub.slots (boundBy fs)) f.id) fs [] path
  have hnil : Ledger.hasKey path ([] : Ledger Path String) = false := rfl
  rw [← Ledger.hasKey_iff, snapshotOf_values, hkeys, hnil, Bool.or_false, List.any_eq_true,
    List.mem_map]
  simp only [beq_iff_eq]

/-- **Names that bindings answer for** are the names of the grammar. -/
theorem named?_isSome_iff_find? (h : Trail [] (layOut hub.slots command.arguments) words fs halt)
    (name : String) :
    ((hub.snapshotOf command fs).named? name).isSome ↔
      ((layOut hub.slots command.arguments).find? name).isSome := by
  have hfilled := h.places_sublist.subset
  rw [named?_isSome_iff, find?_isSome_iff [], snapshotOf_descendants, Ledger.keys_mapValues]
  constructor
  · rintro ⟨path, hpath, hends⟩
    rcases List.mem_append.1 hpath with hbound | hbehind
    · obtain ⟨f, hf, rfl⟩ := List.mem_map.1 (mem_keys_values.1 hbound)
      exact ⟨f.place, hfilled (List.mem_map_of_mem hf), hends⟩
    · obtain ⟨place, hplace, rfl⟩ := List.mem_map.1 hbehind
      refine exists_place_of_behind (fun bound hmem => ?_) hplace hends
      obtain ⟨f, hf, rfl⟩ := List.mem_map.1 hmem
      exact mem_ids_of_mem_places (hfilled (List.mem_map_of_mem hf))
  · rintro ⟨place, hplace, hends⟩
    refine ⟨place.1, List.mem_append.2 ?_, hends⟩
    by_cases hbound : place.1 ∈ fs.map Filling.path
    · exact Or.inl (mem_keys_values.2 hbound)
    · refine Or.inr (mem_keys_behind hplace ?_)
      rwa [List.map_map]

end Hub

namespace HubM

open Bindings

variable {hub hub' : Hub} {id : CommandId} {command : Command} {words : List String}
variable {usage : String} {b : Bindings} {path : Path} {i : SlotId}

/-- **A look-up at a slot that the match bound** gives what it was bound to. -/
theorem lookup_of_bound (hc : hub.commands[id]? = some command)
    (hids : (layOut hub.slots command.arguments).ids.Nodup)
    (hnames : (layOut hub.slots command.arguments).NamesApart)
    (h : matchWords id words usage hub = .ok b hub')
    (hplace : (path, i) ∈ (layOut hub.slots command.arguments).places []) {x : Binding}
    (hx : x ∈ hub.boundIn command usage words) (hi : x.slot = i) :
    b.lookup (.tuple (path.map .text)) = .ok x.value := by
  obtain ⟨fs, halt, htrail, rfl, rfl⟩ := trail_of_matchWords hc h
  rw [Hub.boundIn_eq htrail] at hx
  obtain ⟨f, hf, rfl⟩ := List.mem_map.1 hx
  have hpaths := htrail.nodup_paths hnames
  have hvalues := (Hub.snapshotOf_values_iff htrail).2 ⟨hpaths, htrail.oneValued hids⟩
  -- the slot stands in one place only, and that is where it was bound
  have hpath : f.path = path := by
    have hbound : f.place ∈ (layOut hub.slots command.arguments).places [] :=
      htrail.places_sublist.subset (List.mem_map_of_mem hf)
    exact congrArg Prod.fst (place_unique hids hbound hplace hi)
  have hvalue : (hub.snapshotOf command fs).values.value? path = some f.value := by
    rw [hvalues, ← hpath]
    refine Ledger.value?_of_forall (List.mem_map.2 ⟨_, List.mem_map_of_mem hf, rfl⟩) ?_
    intro entry hentry hsame
    obtain ⟨f', hf', rfl⟩ := List.mem_map.1 hentry
    rw [List.inj_on_of_nodup_map hpaths hf' hf hsame]
  rw [Bindings.lookup_path, Bindings.atPath?, hvalue]
  rfl

/-- **A look-up at a path of no slot** fails. -/
theorem lookup_of_elsewhere (hc : hub.commands[id]? = some command)
    (hacyclic : Acyclic hub.slots command.arguments)
    (h : matchWords id words usage hub = .ok b hub')
    (hpath : path ∉ ((layOut hub.slots command.arguments).places []).map Prod.fst) :
    b.lookup (.tuple (path.map .text)) = .error .unknownKey := by
  obtain ⟨fs, halt, htrail, rfl, rfl⟩ := trail_of_matchWords hc h
  have hbound : (fs.map fun f => (f.path, f.id)) ⊆ (layOut hub.slots command.arguments).places [] :=
    htrail.places_sublist.subset
  refine lookup_unknown (fun hkey => hpath ?_) fun hkey => hpath ?_
  · obtain ⟨f, hf, rfl⟩ := List.mem_map.1 (Hub.mem_keys_values.1 hkey)
    exact List.mem_map.2 ⟨_, hbound (List.mem_map_of_mem hf), rfl⟩
  · rw [Hub.snapshotOf_descendants, Ledger.keys_mapValues] at hkey
    exact List.map_subset _ (behind_subset hacyclic hbound) hkey

/-- **What bindings answer for.** A name is looked up with success if and only if it is found
in the grammar. If slots can be told apart and held their defaults before, the path of a slot
is looked up with success: it has the value that the match bound the slot to, or else its
default. No other path leads to anything. -/
theorem lookup_covers (hc : hub.commands[id]? = some command)
    (h : matchWords id words usage hub = .ok b hub') :
    (∀ name,
      ((∃ value, b.lookup (.text name) = .ok value) ↔
        ∃ i, (layOut hub.slots command.arguments).find? name = some i) ∧
      (b.lookup (.text name) = .error .unknownKey ↔
        (layOut hub.slots command.arguments).find? name = none)) ∧
    (Distinct hub.slots command.arguments →
      (∀ i ∈ (layOut hub.slots command.arguments).ids, ∀ slot, hub.slots[i]? = some slot →
        slot.value = slot.default.getD "") →
      (∀ path i slot, (path, i) ∈ (layOut hub.slots command.arguments).places [] →
        hub.slots[i]? = some slot →
        (∀ x ∈ hub.boundIn command usage words, x.slot = i →
          b.lookup (.tuple (path.map .text)) = .ok x.value) ∧
        ((∀ x ∈ hub.boundIn command usage words, x.slot ≠ i) →
          b.lookup (.tuple (path.map .text)) = .ok (slot.default.getD ""))) ∧
      ∀ path, path ∉ ((layOut hub.slots command.arguments).places []).map Prod.fst →
        b.lookup (.tuple (path.map .text)) = .error .unknownKey) := by
  obtain ⟨fs, halt, htrail, hb, -⟩ := trail_of_matchWords hc h
  refine ⟨fun name => ?_, fun hdistinct hrest => ⟨fun path i slot hplace hslot => ⟨?_, ?_⟩, ?_⟩⟩
  · have hsome := Hub.named?_isSome_iff_find? htrail name
    rw [← hb] at hsome
    rw [lookup_name]
    cases hnamed : b.named? name with
    | some value =>
      rw [hnamed] at hsome
      obtain ⟨i, hi⟩ := Option.isSome_iff_exists.1 (hsome.1 rfl)
      simp [hi]
    | none =>
      rw [hnamed] at hsome
      have hnone : (layOut hub.slots command.arguments).find? name = none := by
        simpa using hsome
      simp [hnone]
  · intro x hx hi
    exact lookup_of_bound hc hdistinct.unshared hdistinct.namesApart h hplace hx hi
  · intro hfree
    have hi : i ∉ b.arguments := by
      rw [Hub.boundIn_eq htrail] at hfree
      rw [hb, Hub.snapshotOf_arguments]
      intro hmem
      obtain ⟨f, hf, rfl⟩ := List.mem_map.1 hmem
      exact hfree f.binding (List.mem_map_of_mem hf) rfl
    have hid : i ∈ (layOut hub.slots command.arguments).ids := mem_ids_of_mem_places hplace
    rw [lookup_of_unbound hc hdistinct.acyclic hdistinct.namesApart h hplace hi, Bindings.current,
      hslot]
    exact congrArg Except.ok (hrest i hid slot hslot)
  · exact fun path => lookup_of_elsewhere hc hdistinct.acyclic h

/-- Mail that is sent to Bob: he is looked up as the user by name and by path, the option that
was not chosen has no value, and the path must be whole. -/
theorem lookup_covers_mail :
    Distinct Hub.mail.slots [0] ∧
      (∀ i ∈ (layOut Hub.mail.slots [0]).ids, ∀ slot, Hub.mail.slots[i]? = some slot →
        slot.value = slot.default.getD "") ∧
      ∃ b hub', matchWords 0 ["SEND", "bob"] "" Hub.mail = .ok b hub' ∧
        (∃ value, b.lookup (.text "USER") = .ok value) ∧
        b.lookup (.tuple [.text "mode", .text "send", .text "user"]) = .ok "bob" ∧
        b.lookup (.tuple [.text "mode", .text "read"]) = .ok "" ∧
        b.lookup (.tuple [.text "user"]) = .error .unknownKey := by
  have hcommand : Hub.mail.commands[0]? =
      some { name := "Mail", aliases := ["mail"], arguments := [0] } := rfl
  obtain ⟨b, hub', h⟩ : ∃ b hub', matchWords 0 ["SEND", "bob"] "" Hub.mail = .ok b hub' :=
    ⟨_, _, rfl⟩
  have hdistinct : Distinct Hub.mail.slots [0] :=
    ⟨acyclic_of_lt (by decide), by decide, by decide⟩
  have hrest : ∀ i ∈ (layOut Hub.mail.slots [0]).ids, ∀ slot, Hub.mail.slots[i]? = some slot →
      slot.value = slot.default.getD "" := by
    intro i hi slot hslot
    have hall : ∀ slot ∈ Hub.mail.slots, slot.value = slot.default.getD "" := by decide
    exact hall slot (List.mem_of_getElem? hslot)
  obtain ⟨hnames, hpaths⟩ := lookup_covers hcommand h
  obtain ⟨hslots, helsewhere⟩ := hpaths hdistinct hrest
  refine ⟨hdistinct, hrest, b, hub', h, (hnames "USER").1.2 ⟨3, by decide⟩, ?_, ?_, ?_⟩
  · exact (hslots ["mode", "send", "user"] 3 { name := "user" } (by decide) rfl).1
      ⟨["mode", "send", "user"], 3, "bob"⟩ (by decide) rfl
  · exact (hslots ["mode", "read"] 1 { name := "read" } (by decide) rfl).2 (by decide)
  · exact helsewhere ["user"] (by decide)

end HubM

end Chatline
