import Chatline.Proofs.Hub.Steady
import Chatline.Proofs.Match.Unreached
/-!
# Lines that were dispatched before

What a line does must not depend on the lines before it. After any lines a hub
is settled (`settled_afterLines`): nothing has changed but what was observed and
the slots of registered commands, each of which is as it was or was reset. So a
hub at rest answers every line as if it were the first (`observed_afterLines`).
A hub that is not at rest matches words alike but for the slots that the match
does not reach (`matchWords_afterLines`).
-/

namespace Chatline

open Grammar

/-- A line for a registry to handle, for a caller of a level. -/
structure Line where
  /-- The registry. -/
  registry : RegistryId
  /-- The text. -/
  text : String
  /-- The level of the caller. -/
  level : Datum

/-- Dispatches a line. -/
def Line.parse (line : Line) : HubM Bool := HubM.parse line.registry line.text line.level

namespace Hub

/-- The hub after some lines were dispatched, whatever came of them. -/
def afterLines (hub : Hub) (lines : List Line) : Hub :=
  lines.foldl (fun hub line => line.parse.after hub) hub

/-- The command that a line calls, if it is taken for a call of one. -/
def called? (hub : Hub) (line : Line) : Option CommandId :=
  let registry := hub.registryAt line.registry
  match registry.callIn? line.text with
  | none => none
  | some text =>
    match Token.tokenize text with
    | [] => none
    | called :: _ =>
      (Registry.position? called ((registry.commands.filterMap (hub.commands[·]?)).map
        (·.toSignature))).bind (registry.commands[·]?)

variable {base hub hub' : Hub} {busy : List SlotId} {lines earlier later : List Line}
variable {line : Line} {id : CommandId} {command : Command} {i : SlotId} {words : List String}
variable {usage : String} {b : Bindings}

theorem afterLines_append :
    hub.afterLines (earlier ++ later) = (hub.afterLines earlier).afterLines later :=
  List.foldl_append

/-! ## After any lines -/

/-- **After any lines the hub is settled.** -/
theorem settled_afterLines (hs : base.Stateless) (h : base.Settled [] hub) :
    base.Settled [] (hub.afterLines lines) := by
  induction lines generalizing hub with
  | nil => exact h
  | cons line lines ih => exact ih ((HubM.steady_parse hs [] _ _ _).keeps hub h)

/-- In particular a hub does not stray from itself. -/
theorem settled_lines (hs : hub.Stateless) (lines : List Line) :
    hub.Settled [] (hub.afterLines lines) :=
  settled_afterLines hs (settled_refl hub [])

/-- Callbacks that keep no state keep none after the hub has settled. -/
theorem Settled.stateless (h : base.Settled busy hub) (hs : base.Stateless) : hub.Stateless := by
  constructor
  · rw [h.commands_eq]
    exact hs.commands
  · rw [h.registries_eq]
    exact hs.registries

/-- A line calls the command that it called at first. -/
theorem Settled.called?_eq (h : base.Settled busy hub) : hub.called? line = base.called? line := by
  rw [called?, called?, h.registryAt_eq, h.commands_eq]

/-- What is observed of a steady program does not depend on what was observed
before. -/
theorem observed_quiet {α : Type} {p : HubM α} (hp : HubM.Steady base busy p)
    (h : base.Settled busy hub) : p.observed hub = p.observed hub.quiet := by
  -- the hub is its quiet self with what was observed put back in front
  have hquiet : base.Settled busy hub.quiet := by
    refine ⟨?_, h.alike, h.slots⟩
    rw [quiet, h.same]
  have hended := hp.ends hub.quiet hub.events hquiet
  have hafter := hp.leaves hub.quiet hub.events hquiet
  rw [recalling_quiet] at hended hafter
  have hevents : (p.after hub).events = hub.events ++ (p.after hub.quiet).events := by
    rw [hafter]
    rfl
  have hnone : hub.quiet.events = [] := rfl
  rw [HubM.observed, HubM.observed, hended, hevents, List.drop_left, hnone, List.length_nil,
    List.drop_zero]

/-- **A hub at rest answers every line as if it were the first**: how the line ends
and what is observed meanwhile are the same after any lines. -/
theorem observed_afterLines (hs : hub.Stateless) (hrest : hub.AtRest) (lines : List Line)
    (line : Line) : line.parse.observed (hub.afterLines lines) = line.parse.observed hub := by
  have hsettled := settled_lines hs lines
  have hsteady : HubM.Steady hub [] line.parse := HubM.steady_parse hs [] _ _ _
  rw [observed_quiet hsteady hsettled, hsettled.eq_of_atRest hrest,
    ← observed_quiet hsteady (settled_refl hub [])]

/-! ## The command that was called -/

/-- A line that calls a command leaves what serving it leaves. -/
theorem after_parseWith (nested : Dispatcher) (h : hub.called? line = some id) :
    ∃ text called words,
      (HubM.parseWith nested line.registry line.text line.level).after hub =
        (HubM.serve nested (hub.registryAt line.registry) id text called words line.level).after
          hub := by
  rw [called?] at h
  cases htext : (hub.registryAt line.registry).callIn? line.text with
  | none => simp only [htext] at h; cases h
  | some text =>
    cases htokens : Token.tokenize text with
    | nil => simp only [htext, htokens] at h; cases h
    | cons called words =>
      simp only [htext, htokens] at h
      refine ⟨text, called, words, ?_⟩
      have hresolve : HubM.resolve (hub.registryAt line.registry) called hub =
          .ok (some id) hub := congrArg (EStateM.Result.ok · hub) h
      rw [HubM.after, HubM.parseWith, HubM.bind_ok (HubM.registry_eq _ hub)]
      simp only [htext, htokens]
      rw [HubM.bind_ok hresolve, HubM.after]
      cases hserve : HubM.serve nested (hub.registryAt line.registry) id text called words
          line.level hub with
      | ok u hub' => simp only [HubM.bind_ok hserve]; rfl
      | error failure hub' => simp only [HubM.bind_error hserve]

/-- **A line resets the command that it calls**, whatever came of it. -/
theorem reset_after_parse (hs : hub.Stateless) (h : hub.called? line = some id)
    (hi : i ∈ hub.owned id) :
    (line.parse.after hub).slots[i]? = (hub.slots[i]?).map Slot.reset := by
  obtain ⟨depth, hparse⟩ : ∃ depth, line.parse =
      HubM.parseWith (HubM.parseWithin depth) line.registry line.text line.level := ⟨_, rfl⟩
  obtain ⟨text, called, words, hserve⟩ := after_parseWith (HubM.parseWithin depth) h
  -- until the reset the slots of the command are busy, and the hub strays in these alone
  have hreported : HubM.Steady hub (hub.owned id) (HubM.reported (HubM.parseWithin depth)
      (hub.registryAt line.registry) id text called words line.level) :=
    HubM.steady_reported (HubM.steady_parseWithin hs depth) hs (hs.registryAt _)
      (List.Subset.refl _)
  have hsettled := hreported.keeps hub (settled_refl hub _)
  rw [hparse, hserve, HubM.after_serve, HubM.after_resetCommand, storing_slots]
  generalize HubM.after _ hub = done at hsettled
  have howned : (layOut done.slots (done.commandAt id).arguments).ids = hub.owned id :=
    hsettled.owned_eq
  rw [resetIn_getElem?, howned, if_pos hi, hsettled.alike.getElem?_reset]

/-- **After lines of which one calls a command** the slots of the command are
reset. -/
theorem reset_afterLines (hs : hub.Stateless) (h : hub.called? line = some id)
    (hline : line ∈ lines) (hi : i ∈ hub.owned id) :
    (hub.afterLines lines).slots[i]? = (hub.slots[i]?).map Slot.reset := by
  obtain ⟨earlier, later, rfl⟩ := List.append_of_mem hline
  rw [afterLines_append]
  have hbefore := settled_lines hs earlier
  generalize hub.afterLines earlier = mid at hbefore
  -- the hub that the line finds is as good as the first, so the line resets its command
  have hmid := hbefore.stateless hs
  have hcalled : mid.called? line = some id := hbefore.called?_eq.trans h
  have hreset : (line.parse.after mid).slots[i]? = (hub.slots[i]?).map Slot.reset := by
    rw [← hbefore.owned_eq] at hi
    rw [reset_after_parse hmid hcalled hi, hbefore.alike.getElem?_reset]
  have hnext := (HubM.steady_parse hmid [] line.registry line.text line.level).keeps mid
    (settled_refl mid [])
  change mid.Settled [] (line.parse.after mid) at hnext
  show ((line.parse.after mid).afterLines later).slots[i]? = _
  generalize line.parse.after mid = next at hreset hnext
  -- once reset, a slot cannot but stay so
  have hlast := settled_lines (hnext.stateless hmid) later
  rcases hlast.slots i List.not_mem_nil with hsame | ⟨-, hagain⟩
  · rw [hsame, hreset]
  · rw [hagain, hreset, Option.map_map]
    rfl

/-! ## Matches after other lines -/

/-- What a match does not reach belongs to its command. -/
theorem mem_owned_of_unreached (hc : hub.commands[id]? = some command)
    (hi : i ∈ hub.unreached command (hub.boundIn command usage words)) : i ∈ hub.owned id := by
  obtain ⟨hplace, -⟩ := List.mem_filter.1 hi
  obtain ⟨place, hmem, rfl⟩ := List.mem_map.1 hplace
  rw [owned, commandAt_eq hc]
  refine Bindings.mem_ids_of_behind hmem fun place' hbound => ?_
  obtain ⟨b, hb, rfl⟩ := List.mem_map.1 hbound
  exact bindsIn_ids usage [] _ words b hb

/-- A slot that is as it was or was reset holds what it held, if that is its
fallback. -/
theorem Settled.current_eq (h : base.Settled [] hub)
    (hrest : ∀ slot, base.slots[i]? = some slot → slot.value = slot.fallback) :
    Bindings.current hub.slots i = Bindings.current base.slots i := by
  rw [Bindings.current, Bindings.current]
  rcases h.slots i List.not_mem_nil with hsame | ⟨-, hreset⟩
  · rw [hsame]
  · rw [hreset]
    cases hslot : base.slots[i]? with
    | none => rfl
    | some slot => exact (hrest slot hslot).symm

/-- **A match after other lines.** Whatever lines came before, a match of a command
that some line calls succeeds as it did at first and binds the same values. Its
bindings are the same after all lines if and only if each slot that the match does
not reach held its fallback from the start. -/
theorem matchWords_afterLines (hs : hub.Stateless) (hcalled : hub.called? line = some id)
    (hc : hub.commands[id]? = some command)
    (hb : HubM.matchWords id words usage hub = .ok b hub') :
    (∀ lines, ∃ b' after, HubM.matchWords id words usage (hub.afterLines lines) = .ok b' after ∧
      b'.values = b.values ∧ b'.arguments = b.arguments) ∧
    ((∀ lines, ∃ after, HubM.matchWords id words usage (hub.afterLines lines) = .ok b after) ↔
      ∀ i ∈ hub.unreached command (hub.boundIn command usage words),
        ∀ slot, hub.slots[i]? = some slot → slot.value = slot.fallback) := by
  have hmatch : ∀ lines, ∃ b' after,
      HubM.matchWords id words usage (hub.afterLines lines) = .ok b' after ∧
      b'.values = b.values ∧ b'.arguments = b.arguments ∧
      (b' = b ↔ ∀ i ∈ hub.unreached command (hub.boundIn command usage words),
        Bindings.current (hub.afterLines lines).slots i = Bindings.current hub.slots i) := by
    intro lines
    have hsettled := settled_lines hs lines
    exact HubM.matchWords_alike hsettled.commands_eq hsettled.alike hc hb
  refine ⟨fun lines => ?_, fun hall i hi slot hslot => ?_, fun hrest lines => ?_⟩
  · obtain ⟨b', after, hok, hvalues, harguments, -⟩ := hmatch lines
    exact ⟨b', after, hok, hvalues, harguments⟩
  · -- the line that calls the command is enough to tell
    obtain ⟨b', after, hok, -, -, hiff⟩ := hmatch [line]
    obtain ⟨after', hok'⟩ := hall [line]
    have heq : b' = b := by
      rw [hok] at hok'
      cases hok'
      rfl
    have hreset := reset_afterLines hs hcalled (List.mem_singleton.2 rfl)
      (mem_owned_of_unreached hc hi)
    have hcurrent := hiff.1 heq i hi
    rw [Bindings.current, Bindings.current, hreset, hslot] at hcurrent
    exact hcurrent.symm
  · obtain ⟨b', after, hok, -, -, hiff⟩ := hmatch lines
    have hsettled := settled_lines hs lines
    have heq : b' = b := hiff.2 fun i hi => hsettled.current_eq (hrest i hi)
    exact ⟨after, heq ▸ hok⟩

/-- **A match that fails, fails alike** whatever lines came before. -/
theorem matchWords_error_afterLines {failure : Failure} (hs : hub.Stateless)
    (hc : hub.commands[id]? = some command)
    (he : HubM.matchWords id words usage hub = .error failure hub') (lines : List Line) :
    ∃ after, HubM.matchWords id words usage (hub.afterLines lines) = .error failure after := by
  have hsettled := settled_lines hs lines
  exact HubM.matchWords_error_alike hsettled.commands_eq hsettled.alike hc he

end Hub

end Chatline
