import Chatline.Proofs.Grammar.Notation
import Chatline.Proofs.Script.Adding
/-!
# Refused calls

`refused_calls` says what a refused builder call leaves: of a call for one change nothing,
and of a call for several items what came before the first item that was refused. Root
slots in bracket notation are added one by one as well, but all of them or none: the slots
that are read are in order, so that the first of them is refused if any is.
-/

namespace Chatline.HubM

open Script

variable {hub hub' : Hub} {failure : Failure} {id : Nat} {operands : Operands} {method : Method}

/-! ## Root slots in bracket notation -/

/-- A root slot is refused if it must be filled and comes after one that may be left out. -/
theorem addArgument_eq (id : CommandId) (i : SlotId) (hub : Hub) :
    addArgument id i hub =
      if (hub.slotAt i).optional = false ∧
          ∃ s ∈ Grammar.held hub.slots (hub.commandAt id).arguments, s.optional = true then
        .error (.build (.requiredAfterOptional (.command (hub.commandAt id).name)
          (hub.slotAt i).name)) hub
      else .ok ⟨⟩ (hub.changingCommand id (·.alsoTaking [i])) := by
  have hset := hub.set_commandAt id (·.alsoTaking [i])
  have hrun : addArgument id i hub = (build ((hub.commandAt id).addArgument
      (Grammar.held hub.slots (hub.commandAt id).arguments) i (hub.slotAt i)) >>= setCommand id)
        hub := rfl
  rw [hrun, Command.addArgument, Slot.checkOrder]
  split
  · next hlate =>
    rw [Bool.and_eq_true, Bool.not_eq_true', List.any_eq_true] at hlate
    rw [if_pos hlate]
    rfl
  · next hplaced =>
    rw [Bool.and_eq_true, Bool.not_eq_true', List.any_eq_true] at hplaced
    rw [if_neg hplaced, Hub.changingCommand, ← hset]
    rfl

/-- The root slots of a command that takes one more. -/
theorem held_alsoTaking (hub : Hub) (id : CommandId) {i : SlotId} {slot s : Slot}
    (hslot : hub.slots[i]? = some slot)
    (hs : s ∈ Grammar.held hub.slots
      ((hub.changingCommand id (·.alsoTaking [i])).commandAt id).arguments) :
    s ∈ Grammar.held hub.slots (hub.commandAt id).arguments ∨ s = slot := by
  by_cases hthere : id < hub.commands.length
  · have hcommand : (hub.changingCommand id (·.alsoTaking [i])).commandAt id =
        (hub.commandAt id).alsoTaking [i] := by
      simp [Hub.commandAt, Hub.changingCommand, hthere]
    rw [hcommand, Command.alsoTaking, Grammar.held, List.filterMap_append, List.mem_append] at hs
    refine hs.imp_right fun hs => ?_
    rwa [List.filterMap_cons_some hslot, List.filterMap_nil, List.mem_singleton] at hs
  · have hcommand : (hub.changingCommand id (·.alsoTaking [i])).commandAt id =
        { name := "" } := by
      simp [Hub.commandAt, Hub.changingCommand, Nat.le_of_not_lt hthere]
    rw [hcommand] at hs
    cases hs

/-- Before a slot that must be filled no slot may be left out, if they are in order. -/
theorem required_of_later {slot later : Slot}
    (horder : slot.optional = true → later.optional = true) (hrequired : later.optional = false) :
    slot.optional = false := by
  cases hoptional : slot.optional with
  | false => rfl
  | true =>
    rw [horder hoptional] at hrequired
    cases hrequired

/-- Slots in order are all taken if each of them may come after those that are there. -/
theorem forM_addArgument {ids : List SlotId} {slots : List Slot}
    (hids : ids.map (hub.slots[·]?) = slots.map some) (horder : Grammar.InOrder slots)
    (hfree : ∀ slot ∈ slots, slot.optional = false →
      ∀ s ∈ Grammar.held hub.slots (hub.commandAt id).arguments, s.optional = false) :
    ids.forM (addArgument id) hub = .ok ⟨⟩ (hub.changingCommand id (·.alsoTaking ids)) := by
  induction ids generalizing slots hub with
  | nil => rw [changingCommand_same fun command => by rw [Command.alsoTaking, List.append_nil]]; rfl
  | cons i ids ih =>
    obtain _ | ⟨slot, slots⟩ := slots
    · cases hids
    · obtain ⟨hslot, hids⟩ := List.cons.inj hids
      obtain ⟨hfirst, horder⟩ := List.pairwise_cons.1 horder
      have hat : hub.slotAt i = slot := Hub.slotAt_eq hslot
      have hadd : addArgument id i hub = .ok ⟨⟩ (hub.changingCommand id (·.alsoTaking [i])) := by
        rw [addArgument_eq, hat, if_neg]
        rintro ⟨hrequired, s, hs, hoptional⟩
        exact Bool.false_ne_true
          ((hfree slot List.mem_cons_self hrequired s hs).symm.trans hoptional)
      have hrest : ids.forM (addArgument id) (hub.changingCommand id (·.alsoTaking [i])) =
          .ok ⟨⟩ ((hub.changingCommand id (·.alsoTaking [i])).changingCommand id
            (·.alsoTaking ids)) :=
        ih hids horder fun later hlater hrequired s hs => by
          rcases held_alsoTaking hub id hslot hs with hs | rfl
          · exact hfree later (List.mem_cons_of_mem _ hlater) hrequired s hs
          · exact required_of_later (hfirst later hlater) hrequired
      have htwice : (hub.changingCommand id (·.alsoTaking [i])).changingCommand id
          (·.alsoTaking ids) = hub.changingCommand id (·.alsoTaking (i :: ids)) :=
        changingCommand_twice fun command => by
          simp only [Command.alsoTaking, List.append_assoc, List.singleton_append]
      rw [← htwice, ← hrest]
      exact bind_ok hadd

/-- **Slots in order are all taken or none is**, whatever the command has already. -/
theorem forM_addArgument_or (id : CommandId) {ids : List SlotId} {slots : List Slot}
    (hids : ids.map (hub.slots[·]?) = slots.map some) (horder : Grammar.InOrder slots) :
    ids.forM (addArgument id) hub = .ok ⟨⟩ (hub.changingCommand id (·.alsoTaking ids)) ∨
      ∃ failure, ids.forM (addArgument id) hub = .error failure hub := by
  obtain _ | ⟨i, ids⟩ := ids
  · obtain rfl : slots = [] := by simpa using hids.symm
    exact .inl (forM_addArgument hids horder fun _ h => nomatch h)
  obtain _ | ⟨slot, slots⟩ := slots
  · cases hids
  have hat : hub.slotAt i = slot := Hub.slotAt_eq (List.cons.inj hids).1
  by_cases hlate : slot.optional = false ∧
    ∃ s ∈ Grammar.held hub.slots (hub.commandAt id).arguments, s.optional = true
  · have hrefused := addArgument_eq id i hub
    rw [hat, if_pos hlate] at hrefused
    exact .inr ⟨_, bind_error hrefused⟩
  · refine .inl (forM_addArgument hids horder fun later hlater hrequired s hs => ?_)
    -- if one of the slots must be filled, so must the first
    have hfirst : slot.optional = false := by
      rcases List.mem_cons.1 hlater with rfl | hlater
      · exact hrequired
      · exact required_of_later ((List.pairwise_cons.1 horder).1 later hlater) hrequired
    by_contra hoptional
    rw [Bool.not_eq_false] at hoptional
    exact hlate ⟨hfirst, s, hs, hoptional⟩

/-- Only commands infer root slots. -/
theorem command_of_inferArguments {on : Handle}
    (h : offered on .inferArguments operands = true) : ∃ id, on = .command id := by
  have hmethod : (Method.callsOn on).contains .inferArguments = true :=
    (Bool.and_eq_true_iff.1 h).1
  rcases object_of_offered h (by decide) with ⟨id, rfl⟩ | ⟨id, rfl⟩ | ⟨id, rfl⟩
  · exact absurd hmethod Bool.false_ne_true
  · exact ⟨id, rfl⟩
  · exact absurd hmethod Bool.false_ne_true

theorem callOn_inferArguments (h : offered (.command id) .inferArguments operands = true) :
    callOn (.command id) .inferArguments operands = (do
      let text ← require .bracketText (operands.get 0).text?
      (← infer text).forM (addArgument id)
      return .command id) :=
  callOn_command h

/-- When the text can be read what was read is kept, and then added one by one. -/
theorem callOn_inferArguments_of_read {text : String} {slots : List Slot} (hub : Hub)
    (hoffered : offered (.command id) .inferArguments operands = true)
    (htext : (operands.get 0).text? = some text) (hread : Notation.read text = .ok slots) :
    callOn (.command id) .inferArguments operands hub =
      ((List.range' hub.slots.length slots.length).forM (addArgument id) >>=
        fun _ => pure (Handle.command id)) (hub.storing (hub.slots ++ slots)) := by
  have hrequire : require .bracketText (operands.get 0).text? hub = .ok text hub := by
    rw [htext]
    rfl
  have hinfer := infer_eq text hub
  rw [hread] at hinfer
  rw [callOn_inferArguments hoffered, bind_ok hrequire, bind_ok hinfer]

/-- **Root slots in bracket notation**: all of them are added, or none is. Of a refused
call only the slots that were read remain, and nothing takes them. -/
theorem callOn_inferArguments_or (hub : Hub)
    (hoffered : offered (.command id) .inferArguments operands = true) :
    (∃ text slots, operands.get 0 = .text text ∧ Notation.read text = .ok slots ∧
      callOn (.command id) .inferArguments operands hub =
        .ok (.command id) ((hub.storing (hub.slots ++ slots)).changingCommand id
          (·.alsoTaking (List.range' hub.slots.length slots.length)))) ∨
      ∃ failure fresh, callOn (.command id) .inferArguments operands hub =
        .error failure (hub.storing (hub.slots ++ fresh)) := by
  have hsame : hub.storing (hub.slots ++ []) = hub := by rw [List.append_nil]; rfl
  cases htext : (operands.get 0).text? with
  | none =>
    refine .inr ⟨.mismatch .bracketText, [], ?_⟩
    rw [callOn_inferArguments hoffered, htext, hsame]
    rfl
  | some text =>
    cases hread : Notation.read text with
    | error e =>
      have hrequire : require .bracketText (operands.get 0).text? hub = .ok text hub := by
        rw [htext]
        rfl
      have hinfer := infer_eq text hub
      rw [hread] at hinfer
      refine .inr ⟨.build e, [], ?_⟩
      rw [callOn_inferArguments hoffered, bind_ok hrequire, bind_error hinfer, hsame]
    | ok slots =>
      have hcall := callOn_inferArguments_of_read hub hoffered htext hread
      have hstored : (List.range' hub.slots.length slots.length).map
          ((hub.storing (hub.slots ++ slots)).slots[·]?) = slots.map some :=
        map_range'_append hub.slots slots
      rcases forM_addArgument_or id hstored (Notation.inOrder_of_read hread) with hall | ⟨failure, hnone⟩
      · rw [bind_ok hall] at hcall
        exact .inl ⟨text, slots, text?_eq_some htext, hread, hcall⟩
      · rw [bind_error hnone] at hcall
        exact .inr ⟨failure, slots, hcall⟩

/-! ## Any refused call -/

/-- **What a refused call for several items leaves**: those before the first item that was
refused have been added, as by one call for each, and the call for that item fails in the
same way. Without items that could be gone through it leaves no trace. -/
def BulkRefused (on : Handle) (method : Method) (operands : Operands) (hub : Hub)
    (failure : Failure) (hub' : Hub) : Prop :=
  match itemsGiven? on method operands with
  | none => hub' = hub
  | some items => ∃ before item later, items = before ++ item :: later ∧
      Added hub on method before hub' ∧ callEach on method before hub = .ok ⟨⟩ hub' ∧
      callOn on (single method) { items := [item] } hub' = .error failure hub'

theorem bulkRefused_of_forM {on : Handle} {step : Handle → HubM PUnit} {items : List Handle}
    {result : Handle} (h : Adds on method step) (hitems : itemsGiven? on method operands = some items)
    (hrun : (items.forM step >>= fun _ => pure result) hub = .error failure hub') :
    BulkRefused on method operands hub failure hub' := by
  rw [BulkRefused, hitems]
  cases hforM : items.forM step hub with
  | ok _ other => rw [bind_ok hforM] at hrun; cases hrun
  | error e other =>
    rw [bind_error hforM] at hrun
    cases hrun
    exact h.forM_refused hforM

/-- So it is when the items are those of an operand. -/
theorem bulkRefused_of_itemsOf {on : Handle} {step : Handle → HubM PUnit} {result : Handle}
    (h : Adds on .addArguments step) (hoffered : offered on .addArguments operands = true)
    (hrun : (itemsOf (operands.get 0) >>= fun items => items.forM step >>= fun _ => pure result)
      hub = .error failure hub') :
    BulkRefused on .addArguments operands hub failure hub' := by
  have hitems : itemsGiven? on .addArguments operands = (operands.get 0).items?.toOption :=
    if_pos hoffered
  rw [itemsOf] at hrun
  cases hgiven : (operands.get 0).items? with
  | error m =>
    rw [hgiven] at hrun hitems
    cases hrun
    rw [BulkRefused, hitems]
    rfl
  | ok items =>
    rw [hgiven] at hrun hitems
    exact bulkRefused_of_forM h hitems hrun

theorem bulkRefused_of_callOn {on : Handle} (h : method ∈ bulkCalls)
    (hrun : callOn on method operands hub = .error failure hub') :
    BulkRefused on method operands hub failure hub' := by
  cases hoffered : offered on method operands with
  | false =>
    have hnone : itemsGiven? on method operands = none := by simp [itemsGiven?, hoffered]
    rw [BulkRefused, hnone]
    exact (idle_callOn hoffered).traceless _ _ _ hrun
  | true =>
    have hmethod : (Method.callsOn on).contains method = true := (Bool.and_eq_true_iff.1 hoffered).1
    have hfind : method ≠ .find := by
      rintro rfl
      exact absurd h (by decide)
    rcases object_of_offered hoffered hfind with ⟨id, rfl⟩ | ⟨id, rfl⟩ | ⟨id, rfl⟩
    · rw [callOn_slot hoffered] at hrun
      cases method with
      | addArguments => exact bulkRefused_of_itemsOf (adds_nested id) hoffered hrun
      | addOptions => exact bulkRefused_of_forM (adds_options id) (if_pos hoffered) hrun
      | _ => first | exact absurd h (by decide) | exact absurd hmethod Bool.false_ne_true
    · rw [callOn_command hoffered] at hrun
      cases method with
      | addArguments => exact bulkRefused_of_itemsOf (adds_roots id) hoffered hrun
      | addAlias => exact bulkRefused_of_forM (adds_aliases id) (if_pos hoffered) hrun
      | _ => first | exact absurd h (by decide) | exact absurd hmethod Bool.false_ne_true
    · rw [callOn_registry hoffered] at hrun
      cases method with
      | addCommands => exact bulkRefused_of_forM (adds_commands id) (if_pos hoffered) hrun
      | _ => first | exact absurd h (by decide) | exact absurd hmethod Bool.false_ne_true

/-- **Refused calls.** Let a host make a call on anything that it holds, in any state and
with any operands. A call for one change that is refused leaves the hub as it is. So does
the call that infers root slots, but for the slots that it read, which nothing refers to;
where it is not refused, all of them were added. A call for several items that is refused
has added, in order, exactly those before the first item that was refused: it is as if
there had been one call for each of these, and the call for that item fails in the same
way. If it has no items that could be gone through nothing has changed. -/
theorem refused_calls (on : Handle) (method : Method) (operands : Operands) (hub : Hub) :
    (∀ failure hub', callOn on method operands hub = .error failure hub' →
      (method ∈ singleCalls → hub' = hub) ∧
      (method = .inferArguments → ∃ fresh, hub' = hub.storing (hub.slots ++ fresh)) ∧
      (method ∈ bulkCalls → BulkRefused on method operands hub failure hub')) ∧
    ∀ result hub', callOn on .inferArguments operands hub = .ok result hub' →
      ∃ id text slots, on = .command id ∧ operands.get 0 = .text text ∧
        Notation.read text = .ok slots ∧
        hub' = (hub.storing (hub.slots ++ slots)).changingCommand id
          (·.alsoTaking (List.range' hub.slots.length slots.length)) := by
  constructor
  · intro failure hub' hrun
    refine ⟨fun hmethod => traceless_callOn hmethod hub _ _ hrun, ?_, fun hmethod =>
      bulkRefused_of_callOn hmethod hrun⟩
    rintro rfl
    cases hoffered : offered on .inferArguments operands with
    | false =>
      refine ⟨[], ((idle_callOn hoffered).traceless _ _ _ hrun).trans ?_⟩
      rw [List.append_nil]
      rfl
    | true =>
      obtain ⟨id, rfl⟩ := command_of_inferArguments hoffered
      rcases callOn_inferArguments_or hub hoffered with
        ⟨_, _, -, -, hok⟩ | ⟨_, fresh, hrefused⟩
      · rw [hok] at hrun
        cases hrun
      · rw [hrefused] at hrun
        cases hrun
        exact ⟨fresh, rfl⟩
  · intro result hub' hrun
    cases hoffered : offered on .inferArguments operands with
    | false =>
      obtain ⟨m, hrefused⟩ := callOn_not_offered hoffered hub
      rw [hrefused] at hrun
      cases hrun
    | true =>
      obtain ⟨id, rfl⟩ := command_of_inferArguments hoffered
      rcases callOn_inferArguments_or hub hoffered with
        ⟨text, slots, htext, hread, hok⟩ | ⟨_, _, hrefused⟩
      · rw [hok] at hrun
        cases hrun
        exact ⟨id, text, slots, rfl, htext, hread, rfl⟩
      · rw [hrefused] at hrun
        cases hrun

end Chatline.HubM

namespace Chatline

open HubM Script

/-- A slot, two that could be its options, and a command that takes the first of these. -/
def offeringHub : Hub where
  slots := [{ name := "mode" }, { name := "read", optional := true }, { name := "clear" }]
  commands := [{ name := "Mail", arguments := [1] }]

/-- Of two options the second must not come after the first, which is kept. By itself it is
refused without a trace; and so is a root slot in bracket notation that must be filled, but
that the slot that was read remains. One that may be left out is taken. -/
theorem offering_refused :
    BulkRefused (.slot 0) .addOptions { items := [.slot 1, .slot 2] } offeringHub
        (.build (.requiredAfterOptional (.argument "mode") "clear"))
        (offeringHub.changingSlot 0 (·.offering [1])) ∧
      (∃ hub', callOn (.slot 0) .addOption { items := [.slot 2] }
          (offeringHub.changingSlot 0 (·.offering [1])) =
        .error (.build (.requiredAfterOptional (.argument "mode") "clear")) hub' ∧
        hub' = offeringHub.changingSlot 0 (·.offering [1])) ∧
      (∃ hub' fresh, callOn (.command 0) .inferArguments { items := [.text "<user>"] }
          offeringHub = .error (.build (.requiredAfterOptional (.command "Mail") "user")) hub' ∧
        hub' = offeringHub.storing (offeringHub.slots ++ fresh)) ∧
      ∃ hub' id slots, callOn (.command 0) .inferArguments { items := [.text "[user]"] }
          offeringHub = .ok (.command 0) hub' ∧
        hub' = (offeringHub.storing (offeringHub.slots ++ slots)).changingCommand id
          (·.alsoTaking (List.range' offeringHub.slots.length slots.length)) := by
  have hbulk : callOn (.slot 0) .addOptions { items := [.slot 1, .slot 2] } offeringHub =
      .error (.build (.requiredAfterOptional (.argument "mode") "clear"))
        (offeringHub.changingSlot 0 (·.offering [1])) := rfl
  have hsingle : callOn (.slot 0) .addOption { items := [.slot 2] }
      (offeringHub.changingSlot 0 (·.offering [1])) =
        .error (.build (.requiredAfterOptional (.argument "mode") "clear"))
          (offeringHub.changingSlot 0 (·.offering [1])) := rfl
  have hrequired : Notation.read "<user>" = .ok [{ name := "user" }] := rfl
  have hoptional : Notation.read "[user]" = .ok [{ name := "user", optional := true }] := rfl
  have hlate : callOn (.command 0) .inferArguments { items := [.text "<user>"] } offeringHub =
      .error (.build (.requiredAfterOptional (.command "Mail") "user"))
        (offeringHub.storing (offeringHub.slots ++ [{ name := "user" }])) :=
    (callOn_inferArguments_of_read offeringHub rfl rfl hrequired).trans rfl
  have hplaced : callOn (.command 0) .inferArguments { items := [.text "[user]"] } offeringHub =
      .ok (.command 0) ((offeringHub.storing
        (offeringHub.slots ++ [{ name := "user", optional := true }])).changingCommand 0
          (·.alsoTaking [3])) :=
    (callOn_inferArguments_of_read offeringHub rfl rfl hoptional).trans rfl
  refine ⟨((refused_calls _ _ _ _).1 _ _ hbulk).2.2 (by decide),
    ⟨_, hsingle, ((refused_calls _ _ _ _).1 _ _ hsingle).1 (by decide)⟩, ?_, ?_⟩
  · obtain ⟨fresh, hfresh⟩ := ((refused_calls _ _ _ _).1 _ _ hlate).2.1 rfl
    exact ⟨_, fresh, hlate, hfresh⟩
  · obtain ⟨id, _, slots, -, -, -, htaken⟩ :=
      (refused_calls _ .inferArguments _ _).2 _ _ hplaced
    exact ⟨_, id, slots, hplaced, htaken⟩

end Chatline
