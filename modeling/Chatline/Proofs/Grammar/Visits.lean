import Chatline.Proofs.Grammar.Acyclic
/-!
# Checking a grammar slot by slot

`Grammar.check` goes through a tree and stops at the first slot that breaks a rule of
building. Here the order in which the slots of the store are visited is a relation of
its own, `Visits`, and what a visit finds is said without the tree. The check ends with
the first violation that a visit finds (`check_of_visits`), and no visit finds one if
and only if the grammar is well formed (`clean_iff`).
-/

namespace Chatline

namespace Grammar

variable {store : List Slot} {owner : Owner} {earlier : List Slot} {ids roots : List SlotId}
variable {i j : SlotId} {slot : Slot} {depth : Nat}

/-- The slots of some numbers. -/
def held (store : List Slot) (ids : List SlotId) : List Slot := ids.filterMap (store[·]?)

theorem held_cons_of_some (hslot : store[i]? = some slot) :
    held store (i :: ids) = slot :: held store ids :=
  List.filterMap_cons_some hslot

theorem held_cons_of_none (hslot : store[i]? = none) : held store (i :: ids) = held store ids :=
  List.filterMap_cons_none hslot

/-- That no sibling that must be filled comes after one that may be left out. -/
def InOrder (siblings : List Slot) : Prop :=
  siblings.Pairwise fun a b => a.optional = true → b.optional = true

/-- That the default of an enum, if there is one, names one of its options up to letter
case. -/
def DefaultNamed (store : List Slot) (slot : Slot) : Prop :=
  slot.isEnum = true → ∀ d, slot.default = some d →
    ∃ o ∈ held store slot.children, Text.sameFolded o.name d = true

/-- **A well-formed grammar**: all sibling lists are in order, and all enums with a
default have an option of its name. -/
@[mk_iff]
structure WellFormed (store : List Slot) (roots : List SlotId) : Prop where
  /-- The roots are in order. -/
  siblings : InOrder (held store roots)
  /-- So is what each slot owns, however far down. -/
  children : ∀ i slot, Reached store roots i → store[i]? = some slot →
    InOrder (held store slot.children)
  /-- Each default of an enum names an option. -/
  defaults : ∀ i slot, Reached store roots i → store[i]? = some slot → DefaultNamed store slot

/-! ## Visits -/

/-- A slot as it is come to. -/
structure Visit where
  /-- The owner of the sibling list. -/
  owner : Owner
  /-- The siblings before the slot. -/
  earlier : List Slot
  /-- The slot. -/
  slot : Slot

/-- What is wrong with a slot: above all its place among its siblings, and then its
default. -/
def Visit.violation? (store : List Slot) (v : Visit) : Option BuildError :=
  if v.slot.optional = false ∧ ∃ s ∈ v.earlier, s.optional = true then
    some (.requiredAfterOptional v.owner v.slot.name)
  else match v.slot.default with
    | none => none
    | some d =>
      if v.slot.isEnum = true ∧ ∀ o ∈ held store v.slot.children, Text.sameFolded o.name d = false
      then some (.defaultNamesNoOption d v.slot.name)
      else none

/-- **The slots below some siblings in depth-first order**: each before those it owns,
and these before its later siblings. -/
inductive Visits (store : List Slot) : Owner → List Slot → List SlotId → List Visit → Prop
  /-- There are no further siblings. -/
  | nil {owner : Owner} {earlier : List Slot} : Visits store owner earlier [] []
  /-- A slot, with what it owns, before its later siblings. -/
  | cons {owner : Owner} {earlier : List Slot} {i : SlotId} {slot : Slot} {ids : List SlotId}
      {inner later : List Visit} : store[i]? = some slot →
      Visits store (.argument slot.name) [] slot.children inner →
      Visits store owner (earlier ++ [slot]) ids later →
      Visits store owner earlier (i :: ids) (⟨owner, earlier, slot⟩ :: (inner ++ later))
  /-- A number that no slot has. -/
  | absent {owner : Owner} {earlier : List Slot} {i : SlotId} {ids : List SlotId}
      {later : List Visit} : store[i]? = none → Visits store owner earlier ids later →
      Visits store owner earlier (i :: ids) later

/-- Without cycles the visits come to an end. -/
theorem exists_visits (h : Shallow store depth ids) (owner : Owner) (earlier : List Slot) :
    ∃ visits, Visits store owner earlier ids visits := by
  -- the levels end what is owned, and the list ends what comes beside it
  induction depth generalizing ids owner earlier with
  | zero =>
    induction ids with
    | nil => exact ⟨[], .nil⟩
    | cons i ids ih =>
      obtain ⟨later, hlater⟩ := ih h.of_cons
      exact ⟨later, .absent (h i List.mem_cons_self) hlater⟩
  | succ depth ihd =>
    induction ids generalizing earlier with
    | nil => exact ⟨[], .nil⟩
    | cons i ids ih =>
      cases hslot : store[i]? with
      | none =>
        obtain ⟨later, hlater⟩ := ih h.of_cons earlier
        exact ⟨later, .absent hslot hlater⟩
      | some slot =>
        obtain ⟨inner, hinner⟩ := ihd (h i List.mem_cons_self slot hslot) (.argument slot.name) []
        obtain ⟨later, hlater⟩ := ih h.of_cons (earlier ++ [slot])
        exact ⟨_, .cons hslot hinner hlater⟩

/-! ## The check finds the first violation -/

/-- How a check ends that found a violation, or none. -/
def verdict : Option BuildError → Except BuildError Unit
  | none => .ok ()
  | some e => .error e

theorem verdict_or (a b : Option BuildError) :
    verdict (a.or b) = (do verdict a; verdict b) := by
  cases a <;> rfl

/-- Whether a word names an option is told by the siblings alone. -/
theorem option?_isNone (g : Grammar) (word : String) :
    (g.option? word).isNone = true ↔
      ∀ o ∈ g.siblings, Text.sameFolded o.name word = false := by
  induction g with
  | nil => simp [option?, siblings]
  | cons i slot children rest _ ih =>
    rw [option?, siblings, List.forall_mem_cons, ← ih]
    by_cases hname : Text.sameFolded slot.name word = true
    · simp [hname]
    · simp [hname]

theorem check_cons {children rest : Grammar} {v : Visit}
    (hv : v = ⟨owner, earlier, slot⟩) (hchildren : children.siblings = held store slot.children) :
    (cons i slot children rest).check owner (earlier.any (·.optional)) = (do
      verdict (v.violation? store)
      children.check (.argument slot.name) false
      rest.check owner ((earlier ++ [slot]).any (·.optional))) := by
  have hany : (earlier ++ [slot]).any (·.optional) = (earlier.any (·.optional) || slot.optional) := by
    simp
  subst hv
  rw [check, hany, Visit.violation?]
  have horder : (!slot.optional && earlier.any (·.optional)) = true ↔
      slot.optional = false ∧ ∃ s ∈ earlier, s.optional = true := by
    simp
  by_cases hbad : slot.optional = false ∧ ∃ s ∈ earlier, s.optional = true
  · rw [if_pos (horder.2 hbad), if_pos hbad]
    rfl
  · rw [if_neg (horder.not.2 hbad), if_neg hbad]
    cases slot.default with
    | none => rfl
    | some d =>
      have hdefault : (slot.isEnum && (children.option? d).isNone) = true ↔
          slot.isEnum = true ∧
            ∀ o ∈ held store slot.children, Text.sameFolded o.name d = false := by
        rw [Bool.and_eq_true, option?_isNone, hchildren]
      dsimp only
      by_cases hunnamed : slot.isEnum = true ∧
          ∀ o ∈ held store slot.children, Text.sameFolded o.name d = false
      · rw [if_pos (hdefault.2 hunnamed), if_pos hunnamed]
        rfl
      · rw [if_neg (hdefault.not.2 hunnamed), if_neg hunnamed]
        rfl

/-- **A check ends with the first violation** in the order of the visits. -/
theorem check_of_visits {visits : List Visit} (hvisits : Visits store owner earlier ids visits)
    (h : Shallow store depth ids) :
    (unfold store depth ids).check owner (earlier.any (·.optional)) =
      verdict (visits.findSome? (Visit.violation? store)) := by
  induction hvisits generalizing depth with
  | nil => cases depth <;> rfl
  | @absent owner earlier i ids later hslot _ ih =>
    rw [unfold_cons_of_none hslot]
    exact ih h.of_cons
  | @cons owner earlier i slot ids inner later hslot _ _ ihInner ihLater =>
    cases depth with
    | zero =>
      rw [h i List.mem_cons_self] at hslot
      cases hslot
    | succ depth =>
      have hchildren := h i List.mem_cons_self slot hslot
      have hinner := ihInner hchildren
      rw [unfold_cons_of_some hslot, check_cons rfl (siblings_unfold hchildren), ihLater h.of_cons,
        List.findSome?_cons, List.findSome?_append]
      rw [List.any_nil] at hinner
      rw [hinner, ← verdict_or]
      cases Visit.violation? store ⟨owner, earlier, slot⟩ <;> rfl

/-! ## No violation -/

theorem not_reached_nil : ¬ Reached store [] i := by
  intro h
  induction h with
  | root hmem => cases hmem
  | child _ _ ih => exact ih

theorem Reached.of_cons (h : Reached store ids j) : Reached store (i :: ids) j := by
  induction h with
  | root hmem => exact .root (List.mem_cons_of_mem _ hmem)
  | child _ hchild ih => exact ih.child hchild

/-- What stands in a grammar is a root, or stands below it, or stands in the rest. -/
theorem reached_cons (hslot : store[i]? = some slot) :
    Reached store (i :: ids) j ↔ j = i ∨ Reached store slot.children j ∨ Reached store ids j := by
  constructor
  · intro h
    induction h with
    | root hmem =>
      rcases List.mem_cons.1 hmem with rfl | hmem
      · exact Or.inl rfl
      · exact Or.inr (Or.inr (.root hmem))
    | child _ hchild ih =>
      rcases ih with rfl | hbelow | hrest
      · obtain ⟨other, hother, hmem⟩ := hchild
        rw [hslot] at hother
        cases hother
        exact Or.inr (Or.inl (.root hmem))
      · exact Or.inr (Or.inl (hbelow.child hchild))
      · exact Or.inr (Or.inr (hrest.child hchild))
  · rintro (rfl | hbelow | hrest)
    · exact .root List.mem_cons_self
    · exact (Reached.root List.mem_cons_self).trans hslot hbelow
    · exact hrest.of_cons

/-- What is so of every slot of a grammar is so of a root, of what the root owns and of
the rest. -/
theorem forall_reached_cons {P : Slot → Prop} (hslot : store[i]? = some slot) :
    (∀ j other, Reached store (i :: ids) j → store[j]? = some other → P other) ↔
      P slot ∧ (∀ j other, Reached store slot.children j → store[j]? = some other → P other) ∧
        ∀ j other, Reached store ids j → store[j]? = some other → P other := by
  constructor
  · intro h
    refine ⟨h i slot (.root List.mem_cons_self) hslot, fun j other hj => ?_, fun j other hj => ?_⟩
    · exact h j other ((reached_cons hslot).2 (Or.inr (Or.inl hj)))
    · exact h j other hj.of_cons
  · rintro ⟨hroot, hbelow, hrest⟩ j other hj hother
    rcases (reached_cons hslot).1 hj with rfl | hj | hj
    · rw [hslot] at hother
      cases hother
      exact hroot
    · exact hbelow j other hj hother
    · exact hrest j other hj hother

theorem forall_reached_cons_of_none {P : Slot → Prop} (hslot : store[i]? = none) :
    (∀ j other, Reached store (i :: ids) j → store[j]? = some other → P other) ↔
      ∀ j other, Reached store ids j → store[j]? = some other → P other := by
  have hreached : ∀ j other, Reached store (i :: ids) j → store[j]? = some other →
      Reached store ids j := by
    intro j other hj
    induction hj generalizing other with
    | root hmem =>
      rcases List.mem_cons.1 hmem with rfl | hmem
      · intro hother
        rw [hslot] at hother
        cases hother
      · exact fun _ => .root hmem
    | child _ hchild ih =>
      obtain ⟨owner, howner, -⟩ := id hchild
      exact fun _ => (ih owner howner).child hchild
  constructor
  · exact fun h j other hj => h j other hj.of_cons
  · exact fun h j other hj hother => h j other (hreached j other hj hother) hother

theorem wellFormed_cons_of_none (hslot : store[i]? = none) :
    WellFormed store (i :: ids) ↔ WellFormed store ids := by
  rw [wellFormed_iff, wellFormed_iff, held_cons_of_none hslot, forall_reached_cons_of_none hslot,
    forall_reached_cons_of_none hslot]

/-- **A grammar is well formed** if its first slot and what this one owns and the rest
are, and the rest may come after the first slot. -/
theorem wellFormed_cons (hslot : store[i]? = some slot) :
    WellFormed store (i :: ids) ↔
      (∀ b ∈ held store ids, slot.optional = true → b.optional = true) ∧
        DefaultNamed store slot ∧ WellFormed store slot.children ∧ WellFormed store ids := by
  rw [wellFormed_iff, wellFormed_iff, wellFormed_iff, held_cons_of_some hslot, InOrder,
    List.pairwise_cons, forall_reached_cons hslot, forall_reached_cons hslot]
  constructor
  · rintro ⟨⟨hafter, hsiblings⟩, ⟨hchildren, hbelow, hlater⟩, hdefault, hnamed, hlaterNamed⟩
    exact ⟨hafter, hdefault, ⟨hchildren, hbelow, hnamed⟩, hsiblings, hlater, hlaterNamed⟩
  · rintro ⟨hafter, hdefault, ⟨hchildren, hbelow, hnamed⟩, hsiblings, hlater, hlaterNamed⟩
    exact ⟨⟨hafter, hsiblings⟩, ⟨hchildren, hbelow, hlater⟩, hdefault, hnamed, hlaterNamed⟩

/-- Nothing is wrong with a slot if it may come after its earlier siblings and its
default names an option. -/
theorem violation?_eq_none :
    Visit.violation? store ⟨owner, earlier, slot⟩ = none ↔
      (∀ a ∈ earlier, a.optional = true → slot.optional = true) ∧ DefaultNamed store slot := by
  have horder : ¬ (slot.optional = false ∧ ∃ s ∈ earlier, s.optional = true) ↔
      ∀ a ∈ earlier, a.optional = true → slot.optional = true := by
    constructor
    · intro h a ha hoptional
      by_contra hrequired
      exact h ⟨by simpa using hrequired, a, ha, hoptional⟩
    · rintro h ⟨hrequired, a, ha, hoptional⟩
      rw [h a ha hoptional] at hrequired
      cases hrequired
  rw [← horder, Visit.violation?, DefaultNamed]
  by_cases hbad : slot.optional = false ∧ ∃ s ∈ earlier, s.optional = true
  · simp [hbad]
  · rw [if_neg hbad]
    cases slot.default with
    | none => simp [hbad]
    | some d =>
      have hnamed : ¬ (slot.isEnum = true ∧
          ∀ o ∈ held store slot.children, Text.sameFolded o.name d = false) ↔
          (slot.isEnum = true → ∃ o ∈ held store slot.children, Text.sameFolded o.name d = true) := by
        push Not
        simp only [ne_eq, Bool.not_eq_false]
      dsimp only
      split
      · next hunnamed => simpa [hbad] using hnamed.not.1 (not_not.2 hunnamed)
      · next hunnamed => simpa [hbad] using hnamed.1 hunnamed

/-- **No visit finds a violation** if and only if the grammar is well formed and may come
after the earlier siblings. -/
theorem clean_iff {visits : List Visit} (hvisits : Visits store owner earlier ids visits) :
    (∀ v ∈ visits, v.violation? store = none) ↔
      (∀ a ∈ earlier, ∀ b ∈ held store ids, a.optional = true → b.optional = true) ∧
        WellFormed store ids := by
  -- the slots that were come to before bear on the rest, so they are part of the invariant
  induction hvisits with
  | nil =>
    refine iff_of_true (fun v hv => nomatch hv)
      ⟨fun a _ b hb => (nomatch hb), List.Pairwise.nil, ?_, ?_⟩
    · exact fun j _ hj => absurd hj not_reached_nil
    · exact fun j _ hj => absurd hj not_reached_nil
  | absent hslot _ ih =>
    rw [ih, wellFormed_cons_of_none hslot, held_cons_of_none hslot]
  | @cons owner earlier i slot ids inner later hslot _ _ ihInner ihLater =>
    rw [List.forall_mem_cons, List.forall_mem_append, ihInner, ihLater, violation?_eq_none,
      wellFormed_cons hslot, held_cons_of_some hslot]
    constructor
    · rintro ⟨⟨hplace, hdefault⟩, ⟨-, hbelow⟩, hlater, hrest⟩
      refine ⟨fun a ha => List.forall_mem_cons.2 ⟨hplace a ha, fun b hb => ?_⟩, fun b hb => ?_,
        hdefault, hbelow, hrest⟩
      · exact hlater a (List.mem_append_left _ ha) b hb
      · exact hlater slot (List.mem_append_right _ (List.mem_singleton_self _)) b hb
    · rintro ⟨hearlier, hafter, hdefault, hbelow, hrest⟩
      refine ⟨⟨fun a ha => (List.forall_mem_cons.1 (hearlier a ha)).1, hdefault⟩,
        ⟨fun a ha => (nomatch ha), hbelow⟩, fun a ha b hb => ?_, hrest⟩
      rcases List.mem_append.1 ha with ha | hlast
      · exact (List.forall_mem_cons.1 (hearlier a ha)).2 b hb
      · rw [List.mem_singleton.1 hlast]
        exact hafter b hb

end Grammar

end Chatline
