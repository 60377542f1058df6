import Chatline.Proofs.Match.Conservation
/-!
# Canonical values of enums

The legal values of an enum are the names of its options. A word that names an
option gives the enum the name itself, and so does a default that stands in for
a word. A default that is used because the words have run out is taken as it was
written, and checking asks of it only that it names an option up to letter case.
`enum_values` says when the two ways give the same value.
-/

namespace Chatline

namespace Grammar

/-- That the default of every enum names one of its options. -/
def DefaultsNamed : Grammar → Prop
  | nil => True
  | cons _ slot children rest =>
    (slot.isEnum = true → ∀ d, slot.default = some d → (children.option? d).isSome = true) ∧
      children.DefaultsNamed ∧ rest.DefaultsNamed

/-- This passes on. -/
theorem hereditary_defaultsNamed : Hereditary DefaultsNamed := fun h => h.2

variable {g : Grammar} {owner : Owner} {afterOptional : Bool} {f : Filling} {d : String}

/-- **Checking sees to the defaults**: in a grammar that breaks no rule of
building the default of every enum names one of its options. -/
theorem defaultsNamed_of_check (h : g.check owner afterOptional = .ok ()) : g.DefaultsNamed := by
  induction g generalizing owner afterOptional with
  | nil => trivial
  | cons id slot children rest ihc ihr =>
    -- what the slot owns is checked first, and the later siblings after it
    have both : ∀ {o : Owner} {p q : Bool}, (do children.check o p; rest.check owner q) = .ok () →
        children.DefaultsNamed ∧ rest.DefaultsNamed := by
      intro o p q hboth
      obtain ⟨_, hchildren, hrest⟩ := steps_eq_ok hboth
      exact ⟨ihc hchildren, ihr hrest⟩
    rw [check] at h
    split at h
    · cases h
    · split at h
      · next value hvalue =>
        split at h
        · cases h
        · next hnamed =>
          refine ⟨fun henum d hd => ?_, both h⟩
          have heq : value = d := Option.some.inj (hvalue.symm.trans hd)
          rw [henum, Bool.true_and, heq] at hnamed
          cases hopt : children.option? d with
          | some found => rfl
          | none => rw [hopt] at hnamed; exact absurd rfl hnamed
      · next hnone =>
        refine ⟨fun _ d hd => ?_, both h⟩
        rw [hnone] at hd
        cases hd

/-- That the value of a filled enum is the name of an option as it stands, or
empty, and then only because the words had run out and there is no default. -/
def Filling.Canonical (f : Filling) : Prop :=
  (∃ o ∈ f.children.siblings, f.value = o.name) ∨
    f.value = "" ∧ f.slot.default = none ∧ f.waiting = []

/-- A slot to which no word came took nothing. -/
theorem waiting_ne_nil_of_took {x : String} (h : f.took? = some x) : f.waiting ≠ [] := by
  intro hw
  rw [Filling.took?, hw] at h
  cases h

/-- **When the value of an enum is canonical**: unless the words had run out and
the default is no name of an option as it stands. -/
theorem canonical_iff (hj : f.Justified) (henum : f.slot.isEnum = true) :
    f.Canonical ↔ (f.waiting = [] → ∀ d, f.slot.default = some d →
      ∃ o ∈ f.children.siblings, o.name = d) := by
  cases hj with
  | word _ hword => rw [henum] at hword; cases hword
  | blank _ hword => rw [henum] at hword; cases hword
  | option htook _ hmem _ hvalue =>
    have hcanonical : f.Canonical := Or.inl ⟨_, hmem, hvalue⟩
    exact iff_of_true hcanonical fun hw => absurd hw (waiting_ne_nil_of_took htook)
  | stoodIn _ _ hw _ _ hopt hvalue =>
    have hcanonical : f.Canonical := Or.inl ⟨_, (option?_mem hopt).1, hvalue⟩
    refine iff_of_true hcanonical fun hnil => ?_
    rw [hw] at hnil
    cases hnil
  | lapsed _ hw _ hvalue =>
    constructor
    · intro hcanonical _ d hd
      rw [hd, Option.getD_some] at hvalue
      rcases hcanonical with ⟨o, ho, hname⟩ | ⟨_, hnone, _⟩
      · exact ⟨o, ho, hname.symm.trans hvalue⟩
      · rw [hnone] at hd
        cases hd
    · intro hnamed
      cases hd : f.slot.default with
      | none =>
        rw [hd, Option.getD_none] at hvalue
        exact Or.inr ⟨hvalue, hd, hw⟩
      | some d =>
        rw [hd, Option.getD_some] at hvalue
        obtain ⟨o, ho, hname⟩ := hnamed hw d hd
        exact Or.inl ⟨o, ho, hvalue.trans hname.symm⟩

/-- **What a default gives an enum**: the default as it was written when the
words had run out, and the name of the option that it names when it stands in for
a word. -/
theorem value_of_default {oid : SlotId} {o : Slot} {sub : Grammar} (hj : f.Justified)
    (htook : f.took? = none) (hd : f.slot.default = some d)
    (hopt : f.children.option? d = some (oid, o, sub)) :
    f.value = if f.waiting = [] then d else o.name := by
  cases hj with
  | word hsome => rw [htook] at hsome; cases hsome
  | blank hsome => rw [htook] at hsome; cases hsome
  | option hsome => rw [htook] at hsome; cases hsome
  | lapsed _ hw _ hvalue => rw [if_pos hw, hvalue, hd, Option.getD_some]
  | stoodIn _ _ hw _ hd' hopt' hvalue =>
    have hne : f.waiting ≠ [] := by rw [hw]; exact List.cons_ne_nil _ _
    rw [hd] at hd'
    cases hd'
    rw [hopt] at hopt'
    cases hopt'
    rw [if_neg hne, hvalue]

end Grammar

namespace HubM

open Grammar

variable {hub hub' : Hub} {id : CommandId} {command : Command} {words : List String}
variable {usage : String} {b : Bindings}

/-- A command passes validation if its grammar breaks no rule of building. -/
theorem check_of_validate (hc : hub.commands[id]? = some command)
    (h : validate id hub = .ok () hub') :
    (layOut hub.slots command.arguments).check (.command command.name) false = .ok () := by
  rw [validate, bind_ok (command_eq hc), bind_ok (grammar_eq _ _)] at h
  cases hcheck : (layOut hub.slots command.arguments).check (.command command.name) false with
  | ok u => rfl
  | error e => rw [hcheck] at h; cases h

/-- **The values of enums.** In a match of a command that passes validation, each
bound enum holds the name of one of its options as it stands, or the empty text
without words and default, except where the words had run out and the default is
not written as an option is. The default gives the same value with words and
without exactly if it is written as the option it names. -/
theorem enum_values (hc : hub.commands[id]? = some command)
    (hv : validate id hub = .ok () hub) (h : matchWords id words usage hub = .ok b hub') :
    ∃ fs halt, Trail [] (layOut hub.slots command.arguments) words fs halt ∧
      b.arguments = fs.map Filling.id ∧
      ∀ i ∈ b.arguments, ∃ f ∈ fs, f.id = i ∧ hub.slots[i]? = some f.slot ∧
        Bindings.current hub'.slots i = f.value ∧
        (f.slot.isEnum = true →
          (f.Canonical ↔ (f.waiting = [] → ∀ d, f.slot.default = some d →
            ∃ o ∈ f.children.siblings, o.name = d)) ∧
          ∀ d, f.slot.default = some d → ∃ oid o sub,
            f.children.option? d = some (oid, o, sub) ∧
            (f.took? = none → f.value = if f.waiting = [] then d else o.name)) := by
  obtain ⟨fs, halt, htrail, rfl, rfl⟩ := trail_of_matchWords hc h
  have hnamed := defaultsNamed_of_check (check_of_validate hc hv)
  refine ⟨fs, halt, htrail, Hub.snapshotOf_arguments, fun i hi => ?_⟩
  rw [Hub.snapshotOf_arguments, ← boundBy_map_slot] at hi
  -- where a slot was filled twice, the last filling counts
  obtain ⟨j, hj, rfl⟩ : ∃ f ∈ fs, f.id = i := by
    rw [boundBy_map_slot] at hi
    exact List.mem_map.1 hi
  have hlt := (List.getElem?_eq_some_iff.1 (htrail.heldIn (heldIn_layOut _) j hj).1).1
  obtain ⟨x, hx, hid, -, hvalue⟩ := current_written_of_mem hi hlt
  obtain ⟨f, hf, rfl⟩ := List.mem_map.1 hx
  have hjustified := htrail.justified f hf
  obtain ⟨rest, hdefault, -⟩ := htrail.reaches hereditary_defaultsNamed hnamed f hf
  refine ⟨f, hf, hid, ?_, hvalue, fun henum => ⟨canonical_iff hjustified henum, ?_⟩⟩
  · rw [← hid]
    exact (htrail.heldIn (heldIn_layOut _) f hf).1
  · intro d hd
    obtain ⟨⟨oid, o, sub⟩, hopt⟩ := Option.isSome_iff_exists.1 (hdefault henum d hd)
    exact ⟨oid, o, sub, hopt, fun htook => value_of_default hjustified htook hd hopt⟩

/-- Without words the mode of a letter is the default as it was written. -/
theorem mode_without_words :
    ∃ b hub', matchWords 0 [] "" Hub.mail = .ok b hub' ∧
      ∃ fs halt, Trail [] (layOut Hub.mail.slots [0]) [] fs halt ∧
        b.arguments = fs.map Filling.id ∧
        ∀ i ∈ b.arguments, ∃ f ∈ fs, f.id = i ∧ Hub.mail.slots[i]? = some f.slot ∧
          Bindings.current hub'.slots i = f.value ∧
          (f.slot.isEnum = true →
            (f.Canonical ↔ (f.waiting = [] → ∀ d, f.slot.default = some d →
              ∃ o ∈ f.children.siblings, o.name = d)) ∧
            ∀ d, f.slot.default = some d → ∃ oid o sub,
              f.children.option? d = some (oid, o, sub) ∧
              (f.took? = none → f.value = if f.waiting = [] then d else o.name)) := by
  have hcommand : Hub.mail.commands[0]? =
      some { name := "Mail", aliases := ["mail"], arguments := [0] } := rfl
  have hvalid : validate 0 Hub.mail = .ok () Hub.mail := rfl
  obtain ⟨b, hub', h⟩ : ∃ b hub', matchWords 0 [] "" Hub.mail = .ok b hub' := ⟨_, _, rfl⟩
  exact ⟨b, hub', h, enum_values hcommand hvalid h⟩

end HubM

end Chatline
