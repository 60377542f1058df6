import Chatline.Proofs.Grammar.Places
import Chatline.Proofs.Grammar.Reach
import Chatline.Proofs.Match.Kept
/-!
# What a match does not reach

Matching does not look at the values of slots (`walk_blank`), so hubs whose slots
differ in values alone match words alike. The bindings that they give agree on
what was bound; behind that stand the arguments that were not reached, with the
values they happen to have. `matchWords_alike` says that these are all that can
make the bindings differ.
-/

namespace Chatline

namespace Grammar

variable {usage : String} {path inner : Path} {g children rest owned : Grammar} {slot : Slot}
variable {word : String} {words : List String} {store s t : List Slot}

/-! ## Matching without values -/

theorem siblings_blank : g.blank.siblings = g.siblings.map Slot.blank := by
  induction g with
  | nil => rfl
  | cons id slot children rest _ ih => rw [blank, siblings, siblings, ih, List.map_cons]

theorem optionPhrase_blank :
    optionPhrase slot.blank children.blank = optionPhrase slot children := by
  rw [optionPhrase, siblings_blank, List.map_map]
  rfl

theorem missing_blank : missing usage slot.blank children.blank = missing usage slot children := by
  rw [missing, missing, optionPhrase_blank]
  rfl

theorem unrecognized_blank :
    unrecognized usage slot.blank children.blank word = unrecognized usage slot children word := by
  rw [unrecognized, unrecognized, optionPhrase_blank]
  rfl

/-- Neither walking nor choosing looks at the values. -/
theorem walk_choose_blank (g : Grammar) :
    (∀ path words, walk usage path g.blank words = walk usage path g words) ∧
      ∀ path word later, choose usage path word later g.blank =
        choose usage path word later g := by
  induction g with
  | nil => exact ⟨fun _ _ => rfl, fun _ _ _ => rfl⟩
  | cons id slot children rest ihc ihr =>
    obtain ⟨hwalk, hchoose⟩ := ihc
    obtain ⟨hwalkRest, hchooseRest⟩ := ihr
    constructor
    · intro path words
      rw [blank, walk, walk]
      simp only [isEmpty_blank, hwalkRest, hwalk, hchoose, missing_blank, unrecognized_blank]
      rfl
    · intro path word later
      rw [blank, choose, choose]
      simp only [isEmpty_blank, hchooseRest, hwalk]
      rfl

/-- **Matching does not look at the values.** -/
theorem walk_blank : walk usage path g.blank words = walk usage path g words :=
  (walk_choose_blank g).1 path words

/-- Stores that are alike match words alike. -/
theorem Alike.walk (h : Alike s t) (ids : List SlotId) :
    (Grammar.layOut s ids).walk usage path words = (Grammar.layOut t ids).walk usage path words := by
  rw [← walk_blank, h.layOut ids, walk_blank]

end Grammar

namespace Bindings

open Grammar

/-- Bindings are the same if all their parts are. -/
theorem eq_of_parts {a b : Bindings} (hvalues : a.values = b.values)
    (hdescendants : a.descendants = b.descendants) (harguments : a.arguments = b.arguments) :
    a = b := by
  cases a
  cases b
  rw [mk.injEq]
  exact ⟨hvalues, hdescendants, harguments⟩

variable {store s t : List Slot} {bound : List (Path × SlotId)} {roots : List SlotId}

/-- The places below a slot. -/
def placesBelow (store : List Slot) (path : Path) (id : SlotId) : Ledger Path SlotId :=
  (layOut store ((store[id]?.map (·.children)).getD [])).places path

/-- The places that stand behind the bound ones, each path once: first those below
the bound slots, then the rest of the grammar. -/
def behind (store : List Slot) (bound : List (Path × SlotId)) (roots : List SlotId) :
    Ledger Path SlotId :=
  (Ledger.putAllNew [] ((bound.map fun (path, id) => placesBelow store path id).flatten ++
    (layOut store roots).places [])).filter fun place => !bound.any (·.1 == place.1)

/-- **What stands behind the bound values** are the values at the places behind. -/
theorem snapshot_descendants :
    (snapshot store bound roots).descendants =
      Ledger.mapValues (current store) (behind store bound roots) := by
  have hbelow : (bound.map fun (path, id) => below store path id).flatten =
      Ledger.mapValues (current store)
        (bound.map fun (path, id) => placesBelow store path id).flatten := by
    rw [Ledger.mapValues, List.map_flatten, List.map_map]
    refine congrArg List.flatten (List.map_congr_left fun place _ => ?_)
    exact values_eq (heldIn_layOut _)
  have hroots : (layOut store roots).values [] =
      Ledger.mapValues (current store) ((layOut store roots).places []) :=
    values_eq (heldIn_layOut roots)
  have happend : ∀ a b : Ledger Path SlotId,
      Ledger.mapValues (current store) a ++ Ledger.mapValues (current store) b =
        Ledger.mapValues (current store) (a ++ b) := fun a b => List.map_append.symm
  have hnew := Ledger.putAllNew_mapValues (current store) []
    ((bound.map fun (path, id) => placesBelow store path id).flatten ++
      (layOut store roots).places [])
  rw [Ledger.mapValues, List.map_nil] at hnew
  rw [snapshot, hbelow, hroots, happend, behind, hnew, Ledger.mapValues, Ledger.mapValues,
    List.filter_map]
  -- the paths that are left out are the keys of the values, which are the bound paths
  refine congrArg (List.map _) (List.filter_congr fun place _ => ?_)
  have hkey := Ledger.hasKey_foldl_put Prod.fst (fun p => current store p.2) bound [] place.1
  have hnil : Ledger.hasKey place.1 ([] : Ledger Path String) = false := rfl
  rw [hnil, Bool.or_false] at hkey
  exact congrArg not hkey

/-- What stands behind the slots that a match bound belongs to the grammar. -/
theorem mem_ids_of_behind {place : Path × SlotId} (h : place ∈ behind store bound roots)
    (hbound : ∀ b ∈ bound, b.2 ∈ (layOut store roots).ids) :
    place.2 ∈ (layOut store roots).ids := by
  obtain ⟨hplace, -⟩ := List.mem_filter.1 h
  rcases Ledger.mem_putAllNew hplace with hnil | hmem
  · cases hnil
  · rcases List.mem_append.1 hmem with hbelow | hroots
    · obtain ⟨ledger, hledger, hin⟩ := List.mem_flatten.1 hbelow
      obtain ⟨⟨path, id⟩, hb, rfl⟩ := List.mem_map.1 hledger
      have hchild := mem_ids_of_mem_places hin
      cases hslot : store[id]? with
      | none =>
        have hnone : (layOut store ((store[id]?.map (·.children)).getD [])).ids = [] := by
          rw [hslot, layOut]
          cases store.length <;> rfl
        rw [hnone] at hchild
        cases hchild
      | some slot =>
        rw [hslot] at hchild
        -- the slot was laid out again from its children, and the grammar is closed under these
        exact mem_layOut_of_child (hbound _ hb) hslot hchild
    · exact mem_ids_of_mem_places hroots

/-- Stores that are alike have the same places behind what is bound. -/
theorem behind_alike (h : Alike s t) : behind s bound roots = behind t bound roots := by
  have hchildren : ∀ id : SlotId, (s[id]?).map Slot.children = (t[id]?).map Slot.children := by
    intro id
    have hblank := congrArg (Option.map Slot.children) (h.getElem? id)
    rwa [Option.map_map, Option.map_map] at hblank
  simp only [behind, placesBelow, h.places, hchildren]

end Bindings

open Grammar

/-! ## Bindings of hubs that are alike -/

section Written

variable {s t : List Slot} {bound : List Binding} {i : SlotId}

/-- What is written does not depend on the values before. -/
theorem current_written_alike (h : Alike s t) (hi : i ∈ bound.map Binding.slot) :
    Bindings.current (written s bound) i = Bindings.current (written t bound) i := by
  obtain ⟨b, -, -, hlast⟩ := lastFor?_of_mem hi
  have hblank := congrArg (Option.map (Slot.holding · b.value)) (h.getElem? i)
  rw [Option.map_map, Option.map_map] at hblank
  have hheld : (s[i]?).map (·.after (some b)) = (t[i]?).map (·.after (some b)) := hblank
  rw [Bindings.current, Bindings.current, written_getElem?, written_getElem?, hlast, hheld]

/-- What is not written stays. -/
theorem current_written_of_notMem (hi : i ∉ bound.map Binding.slot) :
    Bindings.current (written s bound) i = Bindings.current s i := by
  rw [Bindings.current, written_getElem?_of_notMem hi, Bindings.current]

end Written

namespace Hub

/-- What a match of words against the grammar of a command gives values to. -/
def boundIn (hub : Hub) (command : Command) (usage : String) (words : List String) :
    List Binding :=
  ((layOut hub.slots command.arguments).walk usage [] words).bound

/-- The slots that bindings answer for although the match did not reach them. -/
def unreached (hub : Hub) (command : Command) (bound : List Binding) : List SlotId :=
  ((Bindings.behind hub.slots (bound.map fun b => (b.path, b.slot)) command.arguments).map
    Prod.snd).filter (· ∉ bound.map Binding.slot)

variable {hub other : Hub} {command : Command} {fs : List Filling} {halt : Halt}
variable {words : List String}

/-- The values that a match gave are those of its trail. -/
theorem boundIn_eq (h : Trail [] (layOut hub.slots command.arguments) words fs halt)
    (usage : String) : hub.boundIn command usage words = boundBy fs := by
  rw [boundIn, walk_eq_of_trail h]
  rfl

/-- Behind the bound values stand those that the slots hold once these are written. -/
theorem snapshotOf_descendants :
    (hub.snapshotOf command fs).descendants =
      Ledger.mapValues (Bindings.current (written hub.slots (boundBy fs)))
        (Bindings.behind hub.slots (fs.map fun f => (f.path, f.id)) command.arguments) := by
  rw [snapshotOf, Bindings.snapshot_descendants, Bindings.behind_alike alike_written]

/-- The bound values do not depend on the values before. -/
theorem snapshotOf_values_alike (h : Alike other.slots hub.slots) :
    (other.snapshotOf command fs).values = (hub.snapshotOf command fs).values := by
  rw [snapshotOf_values, snapshotOf_values]
  refine List.foldl_ext _ _ _ fun ledger f hf => ?_
  have hid : f.id ∈ (boundBy fs).map Binding.slot := by
    rw [boundBy_map_slot]
    exact List.mem_map_of_mem hf
  rw [current_written_alike h hid]

/-- **Bindings that were given for the same fillings are the same** if and only if
the slots that the match did not reach have the same values. -/
theorem snapshotOf_eq_iff (h : Alike other.slots hub.slots) :
    other.snapshotOf command fs = hub.snapshotOf command fs ↔
      ∀ i ∈ hub.unreached command (boundBy fs),
        Bindings.current other.slots i = Bindings.current hub.slots i := by
  have hpaths : (fs.map fun f => (f.path, f.id)) =
      (boundBy fs).map fun b => (b.path, b.slot) := by
    rw [boundBy, List.map_map]
    rfl
  have hdescendants : ∀ {x : Hub}, Alike x.slots hub.slots →
      (x.snapshotOf command fs).descendants =
        Ledger.mapValues (Bindings.current (written x.slots (boundBy fs)))
          (Bindings.behind hub.slots ((boundBy fs).map fun b => (b.path, b.slot))
            command.arguments) := by
    intro x hx
    rw [snapshotOf_descendants, hpaths, Bindings.behind_alike hx]
  -- the bound values agree in any case, so only the rest can tell the two apart
  have hsame : other.snapshotOf command fs = hub.snapshotOf command fs ↔
      (other.snapshotOf command fs).descendants = (hub.snapshotOf command fs).descendants := by
    constructor
    · intro heq
      rw [heq]
    · intro heq
      have hvalues : (other.snapshotOf command fs).values = (hub.snapshotOf command fs).values :=
        snapshotOf_values_alike h
      exact Bindings.eq_of_parts hvalues heq rfl
  rw [hsame, hdescendants h, hdescendants rfl, Ledger.mapValues, Ledger.mapValues,
    List.map_inj_left]
  constructor
  · intro hall i hi
    obtain ⟨hplace, hfree⟩ := List.mem_filter.1 hi
    obtain ⟨place, hmem, rfl⟩ := List.mem_map.1 hplace
    have hvalue := congrArg Prod.snd (hall place hmem)
    have hnot : place.2 ∉ (boundBy fs).map Binding.slot := of_decide_eq_true hfree
    simpa only [current_written_of_notMem hnot] using hvalue
  · intro hall place hmem
    by_cases hbound : place.2 ∈ (boundBy fs).map Binding.slot
    · rw [current_written_alike h hbound]
    · have hi : place.2 ∈ hub.unreached command (boundBy fs) :=
        List.mem_filter.2 ⟨List.mem_map_of_mem hmem, decide_eq_true hbound⟩
      rw [current_written_of_notMem hbound, current_written_of_notMem hbound, hall _ hi]

end Hub

namespace HubM

variable {hub other hub' : Hub} {id : CommandId} {command : Command} {words : List String}
variable {usage : String} {b : Bindings} {failure : Failure}

/-- Hubs that are alike walk alike. -/
theorem matchWords_eq_alike (hcommands : other.commands = hub.commands)
    (h : Alike other.slots hub.slots) (hc : hub.commands[id]? = some command) :
    matchWords id words usage other =
      keepMatch command ((layOut hub.slots command.arguments).walk usage [] words) [] other := by
  have hc' : other.commands[id]? = some command := by rw [hcommands, hc]
  rw [matchWords_eq hc', h.walk]

/-- **Hubs that are alike match words alike.** The bindings agree on what was bound,
and they are the same if and only if the slots that the match did not reach have
the same values. -/
theorem matchWords_alike (hcommands : other.commands = hub.commands)
    (h : Alike other.slots hub.slots) (hc : hub.commands[id]? = some command)
    (hb : matchWords id words usage hub = .ok b hub') :
    ∃ b' other', matchWords id words usage other = .ok b' other' ∧
      b'.values = b.values ∧ b'.arguments = b.arguments ∧
      (b' = b ↔ ∀ i ∈ hub.unreached command (hub.boundIn command usage words),
        Bindings.current other.slots i = Bindings.current hub.slots i) := by
  obtain ⟨fs, halt, htrail, rfl, rfl⟩ := trail_of_matchWords hc hb
  have hwalk : (layOut hub.slots command.arguments).walk usage [] words = outcomeOf fs halt :=
    walk_eq_of_trail htrail
  rw [matchWords_eq_alike hcommands h hc, hwalk, keepMatch_outcomeOf, Hub.boundIn_eq htrail]
  refine ⟨_, _, rfl, Hub.snapshotOf_values_alike h, ?_, Hub.snapshotOf_eq_iff h⟩
  rw [Hub.snapshotOf_arguments, Hub.snapshotOf_arguments]

/-- **Hubs that are alike refuse words alike.** -/
theorem matchWords_error_alike (hcommands : other.commands = hub.commands)
    (h : Alike other.slots hub.slots) (hc : hub.commands[id]? = some command)
    (he : matchWords id words usage hub = .error failure hub') :
    ∃ other', matchWords id words usage other = .error failure other' := by
  rw [matchWords_eq_alike hcommands h hc]
  rw [matchWords_eq hc] at he
  cases hresult : ((layOut hub.slots command.arguments).walk usage [] words).result with
  | ok left =>
    obtain ⟨fs, halt, htrail, -⟩ := exists_trail hresult
    rw [walk_eq_of_trail htrail, keepMatch_outcomeOf] at he
    cases he
  | error cause =>
    obtain ⟨_, hkept⟩ := keepMatch_of_error command hresult hub
    rw [hkept] at he
    cases he
    exact keepMatch_of_error command hresult other

end HubM

end Chatline
