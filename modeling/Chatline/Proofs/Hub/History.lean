import Chatline.Proofs.Hub.Built
import Chatline.Proofs.Hub.Lines
/-!
# Lines do not depend on lines before them

What was built by builder calls answers every line as if it were the first,
provided that each slot was given no default but one, or at least that the first
one that is not empty is also the last. Otherwise the slot holds the first default
until a line resets it to the last, and bindings that look it up before tell the
one from the other. `parse_after_lines` says this exactly.
-/

namespace Chatline

open HubM

variable {calls : List BuilderCall} {i : SlotId}

/-- **When a slot that was built holds its fallback**: if the first default that is
not empty is the last. -/
theorem value_eq_fallback_iff :
    (∀ slot, (construct calls).hub.slots[i]? = some slot → slot.value = slot.fallback) ↔
      firstGiven ((construct calls).given i) = lastGiven ((construct calls).given i) := by
  have hfaithful := faithful_construct calls
  cases hslot : (construct calls).hub.slots[i]? with
  | none =>
    have hnone := hfaithful.fresh i (List.getElem?_eq_none_iff.1 hslot)
    rw [hnone]
    refine iff_of_true ?_ rfl
    intro slot h
    cases h
  | some slot =>
    have hfollows := hfaithful.follows i slot hslot
    rw [← hfollows.value, ← hfollows.fallback]
    constructor
    · intro h
      exact h slot rfl
    · intro h other hother
      cases hother
      exact h

/-- **Lines and the lines before them.** Let callbacks keep no state of their own.
If the first default that is not empty is the last for every slot of a registered
command, then a line ends as it would on what was newly built, and the same is
observed meanwhile, whatever lines came before. In any case matches succeed and fail
alike after any lines and bind the same values; and the bindings are the same if and
only if the first default is the last for those slots that they answer for although
the match does not reach them. -/
theorem parse_after_lines (calls : List BuilderCall) (hs : (construct calls).hub.Stateless) :
    let c := construct calls
    ((∀ i, c.hub.InUse i → firstGiven (c.given i) = lastGiven (c.given i)) →
      ∀ lines (line : Line), line.parse.observed (c.hub.afterLines lines) =
        line.parse.observed c.hub) ∧
    ∀ line id command words usage, c.hub.called? line = some id →
      c.hub.commands[id]? = some command →
      (∀ b hub', matchWords id words usage c.hub = .ok b hub' →
        (∀ lines, ∃ b' after, matchWords id words usage (c.hub.afterLines lines) = .ok b' after ∧
          b'.values = b.values ∧ b'.arguments = b.arguments) ∧
        ((∀ lines, ∃ after, matchWords id words usage (c.hub.afterLines lines) = .ok b after) ↔
          ∀ i ∈ c.hub.unreached command (c.hub.boundIn command usage words),
            firstGiven (c.given i) = lastGiven (c.given i))) ∧
      ∀ failure hub', matchWords id words usage c.hub = .error failure hub' →
        ∀ lines, ∃ after,
          matchWords id words usage (c.hub.afterLines lines) = .error failure after := by
  intro c
  refine ⟨fun hrest lines line => ?_, fun line id command words usage hcalled hc =>
    ⟨fun b hub' hb => ?_, fun failure hub' he lines => ?_⟩⟩
  · have hatRest : c.hub.AtRest := fun i hi => value_eq_fallback_iff.2 (hrest i hi)
    exact Hub.observed_afterLines hs hatRest lines line
  · obtain ⟨hsucceeds, hsame⟩ := Hub.matchWords_afterLines hs hcalled hc hb
    refine ⟨hsucceeds, hsame.trans ?_⟩
    exact forall₂_congr fun i _ => value_eq_fallback_iff
  · exact Hub.matchWords_error_afterLines hs hc he lines

/-- Calls that build a command for mail, in which the slot for the user is given two
defaults. -/
def mailCalls : List BuilderCall :=
  [.newSlot "mode" false, .newSlot "read" false, .newSlot "send" false, .newSlot "user" true,
   .onSlot 3 (.setDefault "ann"), .onSlot 3 (.setDefault "bob"), .addNested 2 3,
   .addOption 0 1, .addOption 0 2, .newCommand "Mail", .onCommand 0 (.addAlias "mail"),
   .addArgument 0 0, .newRegistry "" false false, .register 0 0]

/-- Reading mail does not reach the user, whose first default is looked up before any
line was dispatched and the last one afterwards. -/
theorem read_after_lines :
    ∃ b hub', matchWords 0 ["read"] "" (construct mailCalls).hub = .ok b hub' ∧
      ¬ ∀ lines, ∃ after,
        matchWords 0 ["read"] "" ((construct mailCalls).hub.afterLines lines) = .ok b after := by
  have hcommands : (construct mailCalls).hub.commands =
      [{ name := "Mail", aliases := ["mail"], arguments := [0] }] := rfl
  have hregistries : (construct mailCalls).hub.registries = [{ commands := [0] }] := rfl
  have hs : (construct mailCalls).hub.Stateless := by
    constructor
    · intro command hcommand
      rw [hcommands, List.mem_singleton] at hcommand
      subst hcommand
      constructor <;> (intro _ h; cases h)
    · intro registry hregistry
      rw [hregistries, List.mem_singleton] at hregistry
      subst hregistry
      constructor <;> (intro _ h; cases h)
  obtain ⟨b, hub', hb⟩ :
      ∃ b hub', matchWords 0 ["read"] "" (construct mailCalls).hub = .ok b hub' := ⟨_, _, rfl⟩
  have hcalled : (construct mailCalls).hub.called? ⟨0, "mail read", .int 0⟩ = some 0 := by
    decide +kernel
  obtain ⟨-, hmatches⟩ := parse_after_lines mailCalls hs
  obtain ⟨hsucceeded, -⟩ := hmatches _ 0 { name := "Mail", aliases := ["mail"], arguments := [0] }
    ["read"] "" hcalled rfl
  obtain ⟨-, hsame⟩ := hsucceeded b hub' hb
  refine ⟨b, hub', hb, fun hall => ?_⟩
  have hgiven := hsame.1 hall 3 (by decide)
  have hne : firstGiven ((construct mailCalls).given 3) ≠
      lastGiven ((construct mailCalls).given 3) := by decide
  exact hne hgiven

end Chatline
