import Chatline.Proofs.Grammar.Visits
import Chatline.Proofs.Hub.Built
/-!
# Which commands are accepted

Slots can be made required or optional after they were given an owner, so a grammar may
break a rule of building that no single call could break. A command is checked as a
whole before it is registered. `accepted_iff_wellFormed` says, for a command in any
state but with a slot below itself, that exactly the well-formed grammars are accepted,
and which error is given for the others.
-/

namespace Chatline

open Grammar

/-- The hub with a command as the last one of a registry. -/
def Hub.enrolling (hub : Hub) (registry : RegistryId) (id : CommandId) : Hub :=
  { hub with registries := hub.registries.modify registry fun entry =>
      { entry with commands := entry.commands ++ [id] } }

/-- The record of a command that was registered. -/
def Command.registeredRecord (command : Command) : Event :=
  .log .registry ("registered " ++ Text.quoted command.name ++ " with aliases " ++
    Text.quotedList command.aliases)

namespace Grammar

variable {store : List Slot} {roots : List SlotId} {owner : Owner} {visits : List Visit}

/-- There is no first violation if and only if the grammar is well formed. -/
theorem firstViolation_eq_none (hvisits : Visits store owner [] roots visits) :
    visits.findSome? (Visit.violation? store) = none ↔ WellFormed store roots := by
  rw [List.findSome?_eq_none_iff, clean_iff hvisits]
  exact and_iff_right fun a ha => (nomatch ha)

theorem exists_firstViolation (hvisits : Visits store owner [] roots visits)
    (h : ¬ WellFormed store roots) :
    ∃ e, visits.findSome? (Visit.violation? store) = some e := by
  cases he : visits.findSome? (Visit.violation? store) with
  | none => exact absurd ((firstViolation_eq_none hvisits).1 he) h
  | some e => exact ⟨e, rfl⟩

end Grammar

namespace HubM

variable {hub : Hub} {id : CommandId} {command : Command} {registry : RegistryId}
variable {visits : List Visit} {e : BuildError}

/-- A check leaves the hub as it is and ends with the first violation. -/
theorem validate_of_visits (hc : hub.commands[id]? = some command)
    (h : Acyclic hub.slots command.arguments)
    (hvisits : Visits hub.slots (.command command.name) [] command.arguments visits) :
    validate id hub = build (verdict (visits.findSome? (Visit.violation? hub.slots))) hub := by
  have hcheck : (layOut hub.slots command.arguments).check (.command command.name) false = _ :=
    check_of_visits hvisits (shallow_of_acyclic h)
  rw [validate, bind_ok (command_eq hc), bind_ok (grammar_eq _ _), hcheck]

theorem validate_of_wellFormed (hc : hub.commands[id]? = some command)
    (h : Acyclic hub.slots command.arguments) (hwell : WellFormed hub.slots command.arguments) :
    validate id hub = .ok () hub := by
  obtain ⟨visits, hvisits⟩ := exists_visits (shallow_of_acyclic h) (.command command.name) []
  rw [validate_of_visits hc h hvisits, (firstViolation_eq_none hvisits).2 hwell]
  rfl

theorem validate_of_violation (hc : hub.commands[id]? = some command)
    (h : Acyclic hub.slots command.arguments)
    (hvisits : Visits hub.slots (.command command.name) [] command.arguments visits)
    (he : visits.findSome? (Visit.violation? hub.slots) = some e) :
    validate id hub = .error (.build e) hub := by
  rw [validate_of_visits hc h hvisits, he]
  rfl

/-- **A check succeeds** if and only if the grammar is well formed. -/
theorem validate_iff (hc : hub.commands[id]? = some command)
    (h : Acyclic hub.slots command.arguments) :
    (∃ hub', validate id hub = .ok () hub') ↔ WellFormed hub.slots command.arguments := by
  constructor
  · rintro ⟨hub', hok⟩
    by_contra hbad
    obtain ⟨visits, hvisits⟩ := exists_visits (shallow_of_acyclic h) (.command command.name) []
    obtain ⟨e, he⟩ := exists_firstViolation hvisits hbad
    rw [validate_of_violation hc h hvisits he] at hok
    cases hok
  · intro hwell
    exact ⟨hub, validate_of_wellFormed hc h hwell⟩

/-- A command that passes the check is registered, and the log records it. -/
theorem register_of_validate (h : validate id hub = .ok () hub) (registry : RegistryId) :
    register registry id hub =
      .ok () ((hub.enrolling registry id).logged [(hub.commandAt id).registeredRecord]) := by
  have hset : hub.registries.set registry
      { hub.registryAt registry with commands := (hub.registryAt registry).commands ++ [id] } =
      (hub.enrolling registry id).registries :=
    hub.set_registryAt registry fun entry => { entry with commands := entry.commands ++ [id] }
  rw [register, bind_ok h]
  exact congrArg (fun registries =>
    EStateM.Result.ok () (Hub.logged { hub with registries } _)) hset

/-- **Which commands are accepted.** Let no slot of a command stand below itself; the
command may be in any state otherwise. Then it passes the check, and is registered, if and
only if its grammar is well formed: in no sibling list a required slot comes after an
optional one, and each default of an enum names one of its options. If it is accepted it
is the last command of the registry. If not, nothing has changed, and the error is what
is wrong with the first slot, in depth-first order, with which anything is wrong. -/
theorem accepted_iff_wellFormed (hc : hub.commands[id]? = some command)
    (h : Acyclic hub.slots command.arguments) (registry : RegistryId) :
    ((∃ hub', validate id hub = .ok () hub') ↔ WellFormed hub.slots command.arguments) ∧
      ((∃ hub', register registry id hub = .ok () hub') ↔
        WellFormed hub.slots command.arguments) ∧
      (WellFormed hub.slots command.arguments → validate id hub = .ok () hub ∧
        ∃ records, register registry id hub =
          .ok () ((hub.enrolling registry id).logged records)) ∧
      (∃ visits, Visits hub.slots (.command command.name) [] command.arguments visits) ∧
      ∀ visits, Visits hub.slots (.command command.name) [] command.arguments visits →
        ¬ WellFormed hub.slots command.arguments →
        ∃ before v later e, visits = before ++ v :: later ∧
          (∀ u ∈ before, u.violation? hub.slots = none) ∧ v.violation? hub.slots = some e ∧
          validate id hub = .error (.build e) hub ∧
          register registry id hub = .error (.build e) hub := by
  have hvalidate := validate_iff hc h
  refine ⟨hvalidate, ⟨fun ⟨hub', hok⟩ => ?_, fun hwell => ?_⟩, fun hwell => ?_,
    exists_visits (shallow_of_acyclic h) _ _, fun visits hvisits hbad => ?_⟩
  · -- registering starts with the check
    obtain ⟨_, hub'', hcheck, -⟩ := bind_eq_ok hok
    exact hvalidate.1 ⟨hub'', hcheck⟩
  · exact ⟨_, register_of_validate (validate_of_wellFormed hc h hwell) registry⟩
  · have hok := validate_of_wellFormed hc h hwell
    exact ⟨hok, _, register_of_validate hok registry⟩
  · obtain ⟨e, he⟩ := exists_firstViolation hvisits hbad
    have hfails := validate_of_violation hc h hvisits he
    obtain ⟨before, v, later, hsplit, hv, hbefore⟩ := List.findSome?_eq_some_iff.1 he
    exact ⟨before, v, later, e, hsplit, hbefore, hv, hfails, bind_error hfails⟩

end HubM

open HubM

/-- Calls that nest two optional slots and make the second one required afterwards. -/
def lateCalls : List BuilderCall :=
  [.newSlot "user" false, .newSlot "text" true, .newSlot "note" true, .addNested 0 1,
   .addNested 0 2, .newCommand "Mail", .onCommand 0 (.addAlias "mail"), .addArgument 0 0,
   .newRegistry "" false false, .onSlot 2 .makeRequired]

/-- The nested slot that was made required is found, and the command is refused. -/
theorem late_refused :
    ¬ WellFormed (construct lateCalls).hub.slots [0] ∧
      register 0 0 (construct lateCalls).hub =
        .error (.build (.requiredAfterOptional (.argument "user") "note"))
          (construct lateCalls).hub := by
  have hslots : (construct lateCalls).hub.slots =
      [{ name := "user", children := [1, 2] }, { name := "text", optional := true },
       { name := "note" }] := rfl
  have hc : (construct lateCalls).hub.commands[0]? =
      some { name := "Mail", aliases := ["mail"], arguments := [0] } := rfl
  have hacyclic : Acyclic (construct lateCalls).hub.slots [0] := by
    rw [hslots]
    exact acyclic_of_lt (by decide)
  have hvalidate : validate 0 (construct lateCalls).hub =
      .error (.build (.requiredAfterOptional (.argument "user") "note"))
        (construct lateCalls).hub := rfl
  obtain ⟨hiff, -, -, ⟨visits, hvisits⟩, hrefused⟩ := accepted_iff_wellFormed hc hacyclic 0
  have hbad : ¬ WellFormed (construct lateCalls).hub.slots [0] := by
    intro hwell
    obtain ⟨hub', hok⟩ := hiff.2 hwell
    rw [hvalidate] at hok
    cases hok
  obtain ⟨_, _, _, e, -, -, -, he, hregister⟩ := hrefused visits hvisits hbad
  rw [hvalidate] at he
  cases he
  exact ⟨hbad, hregister⟩

end Chatline
