import Chatline.Proofs.Grammar.Visits
import Chatline.Proofs.Match.Canonical
/-!
# Required slots

A match can leave a sibling list in four ways: at its end, at an optional slot when the
words have run out, at an optional enum whose word names nothing, and by going on in what
a slot or option owns. `required_bound` says that none of the first three ever skips a
slot that must be filled: checking sees to it that no such slot comes after an optional
one, in every list of the grammar.
-/

namespace Chatline

namespace Grammar

variable {g l children rest owned : Grammar} {path inner : Path} {id : SlotId} {slot : Slot}
variable {words : List String} {fs later : List Filling} {f : Filling} {halt : Halt}
variable {owner : Owner} {afterOptional : Bool}

/-! ## Order in every list -/

/-- That in no list of the grammar a slot that must be filled comes after an optional
one. -/
def Ordered : Grammar → Prop
  | nil => True
  | cons _ slot children rest =>
    (slot.optional = true → ∀ s ∈ rest.siblings, s.optional = true) ∧
      children.Ordered ∧ rest.Ordered

theorem hereditary_ordered : Hereditary Ordered := fun h => h.2

/-- **Checking sees to the order** of all lists. -/
theorem ordered_of_check (h : g.check owner afterOptional = .ok ()) :
    g.Ordered ∧ (afterOptional = true → ∀ s ∈ g.siblings, s.optional = true) := by
  induction g generalizing owner afterOptional with
  | nil => exact ⟨trivial, fun _ s hs => nomatch hs⟩
  | cons id slot children rest ihc ihr =>
    have both : (do children.check (.argument slot.name) false
                    rest.check owner (afterOptional || slot.optional)) = .ok () →
        children.Ordered ∧ rest.Ordered ∧ ((afterOptional || slot.optional) = true →
          ∀ s ∈ rest.siblings, s.optional = true) := by
      intro hboth
      obtain ⟨_, hchildren, hrest⟩ := steps_eq_ok hboth
      exact ⟨(ihc hchildren).1, ihr hrest⟩
    rw [check] at h
    split at h
    · cases h
    · next hplaced =>
      obtain ⟨hchildren, hrest, hlater⟩ : children.Ordered ∧ rest.Ordered ∧
          ((afterOptional || slot.optional) = true → ∀ s ∈ rest.siblings, s.optional = true) := by
        split at h
        · split at h
          · cases h
          · exact both h
        · exact both h
      refine ⟨⟨fun hoptional => hlater (by rw [hoptional, Bool.or_true]), hchildren, hrest⟩,
        fun hafter => List.forall_mem_cons.2 ⟨?_, hlater (by rw [hafter, Bool.true_or])⟩⟩
      simpa [hafter] using hplaced

/-! ## The lists that a match goes into -/

/-- The list that a match goes into once a slot is filled: what the slot owns, or for an
enum what the option owns that its word names or that stands in. -/
def Filling.entered? (f : Filling) : Option Grammar :=
  match f.waiting with
  | [] => none
  | word :: _ =>
    let owned :=
      if f.slot.isEnum then
        (((f.children.option? word).or (standIn? f.slot f.children)).map (·.2.2)).getD nil
      else f.children
    if owned.isEmpty then none else some owned

/-- **The lists that a match went into**, each with what it filled from there on. -/
inductive Enters (g : Grammar) (fs : List Filling) : Grammar → List Filling → Prop
  /-- The list that it started in. -/
  | root : Enters g fs g fs
  /-- What a slot that it filled, or an option that was chosen, owns. -/
  | owned {before later : List Filling} {f : Filling} {l : Grammar} :
      fs = before ++ f :: later → f.entered? = some l → Enters g fs l later

/-- That the slot at a position of a list was filled by the filling at that position. -/
def FilledAt (l : Grammar) (fs : List Filling) (i : Nat) (f : Filling) : Prop :=
  fs[i]? = some f ∧ l.roots[i]? = some f.id ∧ l.siblings[i]? = some f.slot

/-- **That no slot of a list is missed**: each that must be filled was, or comes after one
from which the match went on in what that one owns. -/
def NoneMissed (l : Grammar) (fs : List Filling) : Prop :=
  ∀ i s, l.siblings[i]? = some s → s.optional = false →
    (∃ f, FilledAt l fs i f) ∨ ∃ j < i, ∃ f, FilledAt l fs j f ∧ f.entered?.isSome = true

/-- The list that a filling goes into, told by what is owned. -/
def Opens (f : Filling) (owned : Grammar) : Prop :=
  f.entered? = if owned.isEmpty then none else some owned

theorem FilledAt.succ {i : Nat} {f' : Filling} (h : FilledAt rest fs i f') :
    FilledAt (cons id slot children rest) (f :: fs) (i + 1) f' := h

/-- A slot that was filled, before the list in which the match goes on. -/
theorem noneMissed_onward (hopens : Opens f owned) (hid : f.id = id) (hslot : f.slot = slot)
    (h : NoneMissed (onward path rest inner owned).2 fs) :
    NoneMissed (cons id slot children rest) (f :: fs) := by
  have hfirst : FilledAt (cons id slot children rest) (f :: fs) 0 f := by
    subst hid hslot
    exact ⟨rfl, rfl, rfl⟩
  intro i s hs hrequired
  cases i with
  | zero => exact .inl ⟨f, hfirst⟩
  | succ i =>
    rw [Opens] at hopens
    rw [onward] at h
    cases howned : owned.isEmpty with
    | true =>
      rw [if_pos howned] at h
      rcases h i s hs hrequired with ⟨f', hf'⟩ | ⟨j, hj, f', hf', hentered⟩
      · exact .inl ⟨f', hf'.succ⟩
      · exact .inr ⟨j + 1, by omega, f', hf'.succ, hentered⟩
    | false =>
      refine .inr ⟨0, by omega, f, hfirst, ?_⟩
      rw [hopens, howned]
      rfl

/-- A list that starts with an optional slot has none that must be filled. -/
theorem noneMissed_of_optional (hg : (cons id slot children rest).Ordered)
    (hoptional : slot.optional = true) : NoneMissed (cons id slot children rest) fs := by
  intro i s hs hrequired
  have hall : ∀ s ∈ (cons id slot children rest).siblings, s.optional = true :=
    List.forall_mem_cons.2 ⟨hoptional, hg.1 hoptional⟩
  rw [hall s (List.mem_of_getElem? hs)] at hrequired
  cases hrequired

section Opens

variable {oid : SlotId} {option : Slot} {sub : Grammar} {word : String}

/-- The option that a word names opens what it owns. -/
theorem opens_chosen (henum : f.slot.isEnum = true) (hw : f.waiting = word :: words)
    (hopt : f.children.option? word = some (oid, option, sub)) : Opens f sub := by
  simp only [Opens, Filling.entered?, hw, henum, if_true, hopt, Option.some_or, Option.map_some,
    Option.getD_some]

/-- So does the one that stands in. -/
theorem opens_standIn (henum : f.slot.isEnum = true) (hw : f.waiting = word :: words)
    (hnone : f.children.option? word = none)
    (hdef : standIn? f.slot f.children = some (oid, option, sub)) : Opens f sub := by
  simp only [Opens, Filling.entered?, hw, henum, if_true, hnone, Option.none_or, hdef,
    Option.map_some, Option.getD_some]

/-- Any other slot opens what it owns itself. -/
theorem opens_children (henum : f.slot.isEnum = false) (hw : f.waiting = word :: words) :
    Opens f f.children := by
  simp only [Opens, Filling.entered?, hw, henum, Bool.false_eq_true, if_false]

end Opens

/-- **A match that starts in an ordered list misses none of its slots.** -/
theorem Trail.noneMissed (h : Trail path g words fs halt) (hg : g.Ordered) : NoneMissed g fs := by
  induction h with
  | ended => exact fun i s hs => nomatch hs
  | lapsed hoptional => exact noneMissed_of_optional hg hoptional
  | passed _ hoptional => exact noneMissed_of_optional hg hoptional
  | chosen henum hopt _ ih =>
    refine noneMissed_onward (opens_chosen henum rfl hopt) rfl rfl (ih ?_)
    exact onward_cases (P := fun _ g => g.Ordered) hg.2.2 (hereditary_ordered.option? hg.2.1 hopt)
  | defaulted henum hnone hdef _ ih =>
    refine noneMissed_onward (opens_standIn henum rfl hnone hdef) rfl rfl (ih ?_)
    exact onward_cases (P := fun _ g => g.Ordered) hg.2.2
      (hereditary_ordered.option? hg.2.1 (standIn?_eq_some hdef))
  | swept henum =>
    have hend : NoneMissed (onward [] nil [] nil).2 [] := fun i s hs => nomatch hs
    exact noneMissed_onward (opens_children henum rfl) rfl rfl hend
  | taken henum _ _ _ ih =>
    refine noneMissed_onward (opens_children henum rfl) rfl rfl (ih ?_)
    exact onward_cases (P := fun _ g => g.Ordered) hg.2.2 hg.2.1

/-- That the rest of a match, behind each filling from which it went into a list, is a match
against that list, of which what is inherited holds. -/
def Descends (P : Grammar → Prop) (fs : List Filling) (halt : Halt) : Prop :=
  ∀ before f later l, fs = before ++ f :: later → f.entered? = some l →
    P l ∧ ∃ path words, Trail path l words later halt

/-- One more filling in front, from which the match goes on. -/
theorem descends_cons {P : Grammar → Prop} (hopens : Opens f owned) (hP : P owned)
    (htrail : Trail (onward path rest inner owned).1 (onward path rest inner owned).2 words fs halt)
    (h : Descends P fs halt) : Descends P (f :: fs) halt := by
  intro before f' later l hsplit hentered
  obtain _ | ⟨first, before⟩ := before
  · obtain ⟨rfl, rfl⟩ := List.cons.inj hsplit
    rw [Opens] at hopens
    rw [hopens] at hentered
    split at hentered
    · cases hentered
    · next howned =>
      cases hentered
      rw [onward, if_neg howned] at htrail
      exact ⟨hP, _, _, htrail⟩
  · exact h before f' later l (List.cons.inj hsplit).2 hentered

theorem Trail.descends {P : Grammar → Prop} (hP : Hereditary P) (h : Trail path g words fs halt)
    (hg : P g) : Descends P fs halt := by
  induction h with
  | ended => exact fun before _ _ _ hsplit => by cases before <;> cases hsplit
  | passed => exact fun before _ _ _ hsplit => by cases before <;> cases hsplit
  | lapsed =>
    intro before f later l hsplit hentered
    obtain _ | ⟨first, before⟩ := before
    · obtain ⟨rfl, -⟩ := List.cons.inj hsplit
      cases hentered
    · cases before <;> cases (List.cons.inj hsplit).2
  | chosen henum hopt htrail ih =>
    obtain ⟨hchildren, hrest⟩ := hP hg
    have hsub := hP.option? hchildren hopt
    exact descends_cons (opens_chosen henum rfl hopt) hsub htrail
      (ih (onward_cases (P := fun _ g => P g) hrest hsub))
  | defaulted henum hnone hdef htrail ih =>
    obtain ⟨hchildren, hrest⟩ := hP hg
    have hsub := hP.option? hchildren (standIn?_eq_some hdef)
    exact descends_cons (opens_standIn henum rfl hnone hdef) hsub htrail
      (ih (onward_cases (P := fun _ g => P g) hrest hsub))
  | swept henum =>
    obtain ⟨hchildren, -⟩ := hP hg
    have hend : Trail (onward [] nil [] nil).1 (onward [] nil [] nil).2 [] [] ⟨[], none⟩ := .ended
    refine descends_cons (opens_children henum rfl) hchildren hend ?_
    exact fun before _ _ _ hsplit => by cases before <;> cases hsplit
  | taken henum _ _ htrail ih =>
    obtain ⟨hchildren, hrest⟩ := hP hg
    exact descends_cons (opens_children henum rfl) hchildren htrail
      (ih (onward_cases (P := fun _ g => P g) hrest hchildren))

/-- **Where a match goes into a list the rest of it is a match against that list**, and what
is inherited from the start holds of the list. -/
theorem Trail.enters {P : Grammar → Prop} (hP : Hereditary P) (h : Trail path g words fs halt)
    (hg : P g) (hl : Enters g fs l later) : P l ∧ ∃ path words, Trail path l words later halt := by
  cases hl with
  | root => exact ⟨hg, path, words, h⟩
  | owned hsplit hentered => exact h.descends hP hg _ _ _ _ hsplit hentered

/-! ## Without words -/

/-- Without words a match succeeds if there is no slot, or the first is optional. -/
theorem walk_nil_ok_iff (usage : String) (path : Path) (g : Grammar) :
    (∃ left, (walk usage path g []).result = .ok left) ↔
      ∀ s ∈ g.siblings.head?, s.optional = true := by
  cases g with
  | nil =>
    refine iff_of_true ⟨[], rfl⟩ ?_
    intro s hs
    cases hs
  | cons i slot children rest =>
    rw [siblings, List.head?_cons]
    cases hoptional : slot.optional with
    | true =>
      rw [walk_lapsed hoptional]
      refine iff_of_true ⟨[], rfl⟩ ?_
      intro s hs
      rwa [← Option.some.inj hs]
    | false =>
      rw [walk_missing hoptional]
      refine iff_of_false ?_ ?_
      · rintro ⟨left, h⟩
        cases h
      · intro h
        exact Bool.false_ne_true (hoptional.symm.trans (h slot rfl))

/-- In an ordered list all slots are optional if the first is. -/
theorem forall_optional_iff (hg : g.Ordered) :
    (∀ s ∈ g.siblings.head?, s.optional = true) ↔ ∀ s ∈ g.siblings, s.optional = true := by
  cases g with
  | nil => simp [siblings]
  | cons i slot children rest =>
    rw [siblings, List.head?_cons, List.forall_mem_cons]
    constructor
    · intro h
      exact ⟨h slot rfl, hg.1 (h slot rfl)⟩
    · rintro ⟨hoptional, -⟩ s hs
      rwa [← Option.some.inj hs]

end Grammar

namespace HubM

open Grammar

variable {hub hub' : Hub} {id : CommandId} {command : Command} {words : List String}
variable {usage : String} {b : Bindings}

/-- A match gives bindings if and only if its walk succeeds. -/
theorem matchWords_ok_iff (hc : hub.commands[id]? = some command) :
    (∃ b hub', matchWords id words usage hub = .ok b hub') ↔
      ∃ left, (walk usage [] (layOut hub.slots command.arguments) words).result = .ok left := by
  constructor
  · rintro ⟨b, hub', h⟩
    exact keepMatch_eq_ok ((matchWords_eq hc).symm.trans h)
  · rintro ⟨left, h⟩
    obtain ⟨fs, halt, htrail, -⟩ := exists_trail h
    exact ⟨_, _, matchWords_of_trail hc htrail⟩

/-- **Required slots are never missed.** Let a command pass validation. Where it matches
some words, with the fillings `fs`, take any list `l` that the match went into: the root
list, or what a filled slot or its chosen option owns. The rest of the match is a match
against that list, whose slots are those of the store, and each slot of the list that must
be filled was, unless it comes after one from which the match went on in what that one
owns. Without words the command matches if and only if no root slot must be filled. -/
theorem required_bound (hc : hub.commands[id]? = some command)
    (hv : validate id hub = .ok () hub) :
    (∀ words usage b hub', matchWords id words usage hub = .ok b hub' →
      ∃ fs halt, Trail [] (layOut hub.slots command.arguments) words fs halt ∧
        b.arguments = fs.map Filling.id ∧
        ∀ l later, Enters (layOut hub.slots command.arguments) fs l later →
          l.HeldIn hub.slots ∧ (∃ path waiting, Trail path l waiting later halt) ∧
            NoneMissed l later) ∧
      ∀ usage, (∃ b hub', matchWords id [] usage hub = .ok b hub') ↔
        ∀ i ∈ command.arguments, ∀ slot, hub.slots[i]? = some slot → slot.optional = true := by
  have hordered := (ordered_of_check (check_of_validate hc hv)).1
  constructor
  · intro words usage b hub' h
    obtain ⟨fs, halt, htrail, rfl, rfl⟩ := trail_of_matchWords hc h
    refine ⟨fs, halt, htrail, Hub.snapshotOf_arguments, fun l later hl => ?_⟩
    obtain ⟨hl', path, waiting, hrest⟩ := htrail.enters hereditary_ordered hordered hl
    have hheld := (htrail.enters hereditary_heldIn (heldIn_layOut _) hl).1
    exact ⟨hheld, ⟨path, waiting, hrest⟩, hrest.noneMissed hl'⟩
  · intro usage
    have hroots : (∀ s ∈ (layOut hub.slots command.arguments).siblings, s.optional = true) ↔
        ∀ i ∈ command.arguments, ∀ slot, hub.slots[i]? = some slot → slot.optional = true := by
      rw [siblings_layOut]
      simp only [List.mem_filterMap]
      exact ⟨fun h i hi slot hslot => h slot ⟨i, hi, hslot⟩, fun h s ⟨i, hi, hs⟩ => h i hi s hs⟩
    exact (matchWords_ok_iff hc).trans ((walk_nil_ok_iff _ _ _).trans
      ((forall_optional_iff hordered).trans hroots))

/-- A letter that is sent to a user, for which the match goes into what sending owns, and a
call without words, which the optional mode allows. -/
theorem mail_required :
    ∃ b hub', matchWords 0 ["send", "bob"] "" Hub.mail = .ok b hub' ∧
      (∃ fs halt, Trail [] (layOut Hub.mail.slots [0]) ["send", "bob"] fs halt ∧
        b.arguments = fs.map Filling.id ∧
        ∀ l later, Enters (layOut Hub.mail.slots [0]) fs l later →
          l.HeldIn Hub.mail.slots ∧ (∃ path waiting, Trail path l waiting later halt) ∧
            NoneMissed l later) ∧
      ∃ b hub', matchWords 0 [] "" Hub.mail = .ok b hub' := by
  have hcommand : Hub.mail.commands[0]? =
      some { name := "Mail", aliases := ["mail"], arguments := [0] } := rfl
  have hvalid : validate 0 Hub.mail = .ok () Hub.mail := rfl
  obtain ⟨b, hub', h⟩ : ∃ b hub', matchWords 0 ["send", "bob"] "" Hub.mail = .ok b hub' :=
    ⟨_, _, rfl⟩
  obtain ⟨hbound, hempty⟩ := required_bound hcommand hvalid
  refine ⟨b, hub', h, hbound _ _ _ _ h, (hempty "").2 ?_⟩
  intro i hi slot hslot
  obtain rfl := List.mem_singleton.1 hi
  cases hslot
  rfl

end HubM

end Chatline
