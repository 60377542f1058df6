import Chatline.Grammar.Bindings
/-!
# Options

The option that a word names stands among the siblings of an enum, and a match
may go on in what it owns. So a proof about all that a match may reach goes
through options as well as through children and siblings: `options_induction`
is the induction for that, and a property that passes on to children and
siblings passes on to what options own (`Hereditary.option?`).
-/

namespace Chatline

namespace Grammar

variable {word : String} {id oid : SlotId} {slot option : Slot} {g children rest sub : Grammar}

/-- Only the grammar without slots is empty. -/
theorem isEmpty_iff {g : Grammar} : g.isEmpty = true ↔ g = nil := by
  cases g <;> simp [isEmpty]

/-- The option that a word names stands among the siblings, and its name is the
word up to letter case. -/
theorem option?_mem (h : g.option? word = some (oid, option, sub)) :
    option ∈ g.siblings ∧ Text.sameFolded option.name word = true := by
  induction g with
  | nil => cases h
  | cons id slot children rest _ ih =>
    rw [option?] at h
    split at h
    · next hname =>
      cases h
      exact ⟨List.mem_cons_self, hname⟩
    · obtain ⟨hmem, hname⟩ := ih h
      exact ⟨List.mem_cons_of_mem _ hmem, hname⟩

/-- What an option owns is part of what the enum owns. -/
theorem option?_ids (h : g.option? word = some (oid, option, sub)) :
    sub.ids.Sublist g.ids := by
  induction g with
  | nil => cases h
  | cons id slot children rest _ ih =>
    rw [option?] at h
    split at h
    · cases h
      exact (List.sublist_append_left _ _).trans (List.sublist_cons_self _ _)
    · exact ((ih h).trans (List.sublist_append_right _ _)).trans (List.sublist_cons_self _ _)

/-- Induction over grammars that also reaches what the options of an enum own. -/
@[elab_as_elim]
theorem options_induction {P : Grammar → Prop} (nil : P nil)
    (cons : ∀ id slot children rest, P children → P rest →
      (∀ word oid option sub, children.option? word = some (oid, option, sub) → P sub) →
      P (cons id slot children rest))
    (g : Grammar) : P g := by
  -- an option may stand anywhere among the siblings, so the siblings carry along what holds there
  have key : P g ∧ ∀ word oid option sub, g.option? word = some (oid, option, sub) → P sub := by
    induction g with
    | nil =>
      refine ⟨nil, fun word oid option sub h => ?_⟩
      cases h
    | cons id slot children rest ihc ihr =>
      refine ⟨cons id slot children rest ihc.1 ihr.1 ihc.2, fun word oid option sub h => ?_⟩
      rw [option?] at h
      split at h
      · cases h
        exact ihc.1
      · exact ihr.2 word oid option sub h
  exact key.1

/-- That a property of grammars passes on to what the first slot owns and to the
later siblings. -/
def Hereditary (P : Grammar → Prop) : Prop :=
  ∀ {id : SlotId} {slot : Slot} {children rest : Grammar},
    P (cons id slot children rest) → P children ∧ P rest

/-- Such a property also passes on to what an option owns. -/
theorem Hereditary.option? {P : Grammar → Prop} (hP : Hereditary P) (hg : P g)
    (h : g.option? word = some (oid, option, sub)) : P sub := by
  induction g with
  | nil => cases h
  | cons id slot children rest _ ih =>
    obtain ⟨hchildren, hrest⟩ := hP hg
    rw [Grammar.option?] at h
    split at h
    · cases h
      exact hchildren
    · exact ih hrest h

end Grammar

end Chatline
