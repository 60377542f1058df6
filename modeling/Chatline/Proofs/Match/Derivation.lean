import Chatline.Proofs.Match.Kept
/-!
# Derivations

A derivation tells how words can be meant: it goes through sibling slots in
order, gives every slot the word it is to have, and moves for good into what a
filled slot or a chosen option owns. It speaks of no merging, no defaults that
stand in and no early end. Matching is complete for derivations
(`match_of_derivation`): the words of a derivation are matched just as they were
meant, and none is ignored.
-/

namespace Chatline

namespace Grammar

/-- The option that a word means: the first among the siblings whose name is the
word up to letter case, with what it owns. -/
inductive FirstNamed (word : String) : Grammar → Slot → Grammar → Prop
  /-- The first sibling has the name. -/
  | here {id : SlotId} {option : Slot} {owned rest : Grammar} :
      Text.fold option.name.toList = Text.fold word.toList →
      FirstNamed word (cons id option owned rest) option owned
  /-- The first sibling has another name. -/
  | later {id : SlotId} {other option : Slot} {others owned rest : Grammar} :
      Text.fold other.name.toList ≠ Text.fold word.toList →
      FirstNamed word rest option owned →
      FirstNamed word (cons id other others rest) option owned

/-- **A derivation** of words from the slots at the end of a path, with the
values that it means. -/
inductive Derivation : Path → Grammar → List String → List Binding → Prop
  /-- The walk ends with the list. -/
  | ended {path : Path} : Derivation path nil [] []
  /-- Once the words are spent the walk ends at an optional slot, which has its
  default or nothing. -/
  | lapsed {path : Path} {id : SlotId} {slot : Slot} {children rest : Grammar} :
      slot.optional = true →
      Derivation path (cons id slot children rest) []
        [⟨path ++ [slot.name], id, slot.default.getD ""⟩]
  /-- A slot that is no enum has a word that is not empty and satisfies its rule. -/
  | word {path : Path} {id : SlotId} {slot : Slot} {children rest : Grammar} {word : String}
      {words : List String} {bs : List Binding} :
      slot.isEnum = false → word ≠ "" → slot.rule.accepts word = .ok true →
      Derivation (onward path rest (path ++ [slot.name]) children).1
        (onward path rest (path ++ [slot.name]) children).2 words bs →
      Derivation path (cons id slot children rest) (word :: words)
        (⟨path ++ [slot.name], id, word⟩ :: bs)
  /-- An enum has a word that means one of its options, and the name of that
  option as its value. -/
  | option {path : Path} {id : SlotId} {slot option : Slot} {children rest owned : Grammar}
      {word : String} {words : List String} {bs : List Binding} :
      slot.isEnum = true → FirstNamed word children option owned →
      Derivation (onward path rest (path ++ [slot.name] ++ [option.name]) owned).1
        (onward path rest (path ++ [slot.name] ++ [option.name]) owned).2 words bs →
      Derivation path (cons id slot children rest) (word :: words)
        (⟨path ++ [slot.name], id, option.name⟩ :: bs)

variable {path : Path} {g owned : Grammar} {word : String} {words : List String}
variable {option : Slot} {bs : List Binding}

/-- The option that a word means is the one that is looked up. -/
theorem FirstNamed.option? (h : FirstNamed word g option owned) :
    ∃ oid, g.option? word = some (oid, option, owned) := by
  induction h with
  | @here id option owned rest hname =>
    exact ⟨id, by simp [Grammar.option?, Text.sameFolded, hname]⟩
  | later hname _ ih =>
    obtain ⟨oid, ih⟩ := ih
    exact ⟨oid, by simp [Grammar.option?, Text.sameFolded, hname, ih]⟩

/-- A word that satisfies the rule is read as it is. -/
theorem read_of_accepts {slot : Slot} (hne : word ≠ "")
    (hrule : slot.rule.accepts word = .ok true) : slot.read word = .ok word := by
  rw [Slot.read, if_neg hne, hrule]

/-- After the last slot of a list no word is derived. -/
theorem Derivation.nil_inv (h : Derivation path nil words bs) : words = [] ∧ bs = [] := by
  cases h
  exact ⟨rfl, rfl⟩

/-- **A derivation has a trail** without remarks, and no word is left over. -/
theorem Derivation.trail (h : Derivation path g words bs) :
    ∃ fs, Trail path g words fs ⟨[], none⟩ ∧ boundBy fs = bs ∧
      fs.filterMap Filling.remark? = [] := by
  induction h with
  | ended => exact ⟨[], .ended, rfl, rfl⟩
  | lapsed hopt => exact ⟨_, .lapsed hopt, rfl, rfl⟩
  | @word path id slot children rest word words bs henum hne hrule hrec ih =>
    have hread := read_of_accepts hne hrule
    cases hsweep : rest.isEmpty && children.isEmpty with
    | true =>
      -- the last slot of its list sweeps up one word, since no other is derived after it
      rw [Bool.and_eq_true, isEmpty_iff, isEmpty_iff] at hsweep
      obtain ⟨rfl, rfl⟩ := hsweep
      obtain ⟨rfl, rfl⟩ := hrec.nil_inv
      refine ⟨_, .swept henum hread, rfl, ?_⟩
      rw [List.filterMap_cons_none (remark?_of_word henum), List.filterMap_nil]
    | false =>
      obtain ⟨fs, htrail, rfl, hremarks⟩ := ih
      refine ⟨_, .taken henum hsweep hread htrail, rfl, ?_⟩
      rw [List.filterMap_cons_none (remark?_of_word henum), hremarks]
  | option henum hnamed _ ih =>
    obtain ⟨oid, hopt⟩ := hnamed.option?
    obtain ⟨fs, htrail, rfl, hremarks⟩ := ih
    refine ⟨_, .chosen henum hopt htrail, rfl, ?_⟩
    rw [List.filterMap_cons_none (remark?_of_named rfl hopt), hremarks]

end Grammar

namespace HubM

open Grammar

variable {hub : Hub} {id : CommandId} {command : Command} {words : List String}
variable {bs : List Binding}

/-- **Matching is complete.** Where no slot stands in two places of a grammar,
the words of a derivation are matched as they were meant: every slot that the
derivation visits is bound, in order, to its value and at the path that leads to
it; no word is ignored, and nothing is logged. -/
theorem match_of_derivation (hc : hub.commands[id]? = some command)
    (hnd : (layOut hub.slots command.arguments).ids.Nodup)
    (h : Derivation [] (layOut hub.slots command.arguments) words bs) (usage : String) :
    ∃ b hub', matchWords id words usage hub = .ok b hub' ∧
      hub'.events = hub.events ∧
      b.arguments = bs.map Binding.slot ∧
      (∀ x ∈ bs, Bindings.current hub'.slots x.slot = x.value) ∧
      b.values = bs.foldl (fun ledger x => Ledger.put ledger x.path x.value) [] := by
  obtain ⟨fs, htrail, rfl, hremarks⟩ := h.trail
  refine ⟨_, _, matchWords_of_trail hc htrail, ?_, ?_, ?_, ?_⟩
  · simp only [Hub.kept_events, recordsOf, hremarks, Command.leftRecord, List.map_nil, if_true,
      List.append_nil]
  · rw [Hub.snapshotOf_arguments, boundBy_map_slot]
  · intro x hx
    obtain ⟨f, hf, rfl⟩ := List.mem_map.1 hx
    exact htrail.current_written (heldIn_layOut _) hnd hf
  · exact Hub.snapshotOf_values_of_nodup htrail hnd

/-- A letter sent to a user, in which the word for the option is in other letter
case and the text is left out. -/
theorem match_sent_to_bob :
    ∃ b hub', matchWords 0 ["SEND", "bob"] "" Hub.mail = .ok b hub' ∧
      hub'.events = [] ∧
      b.arguments = [0, 3, 4] ∧
      (∀ x ∈ [⟨["mode"], 0, "send"⟩, ⟨["mode", "send", "user"], 3, "bob"⟩,
          (⟨["mode", "send", "text"], 4, ""⟩ : Binding)],
        Bindings.current hub'.slots x.slot = x.value) ∧
      b.values = [(["mode"], "send"), (["mode", "send", "user"], "bob"),
        (["mode", "send", "text"], "")] :=
  have hcommand : Hub.mail.commands[0]? =
      some { name := "Mail", aliases := ["mail"], arguments := [0] } := rfl
  match_of_derivation hcommand (by decide)
    (.option rfl (.later (by decide) (.here (by decide)))
      (.word rfl (by decide) rfl (.lapsed rfl))) ""

end HubM

end Chatline
