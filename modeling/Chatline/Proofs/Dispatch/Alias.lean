import Chatline.Proofs.Dispatch.Restored
import Chatline.Proofs.Hub.Built
import Chatline.Proofs.Text.Lowering
import Chatline.Proofs.Token.Pieces
/-!
# Aliases that are typed

A command is called by typing one of its aliases, and every alias that `addAlias` accepts
is a single lowered word. A line that consists of such a word is one token again, but for a
word that stands in double quotes: the token is then what stands between them. So an alias
in quotes calls whoever owns the word without its quotes (`called?_of_alias`).
-/

namespace Chatline

/-! ## A word as a line -/

namespace Token

variable {cs inner : List Char}

/-- **A word in quotes**: two quotes with none between them. -/
def IsQuoted (cs : List Char) : Prop := ∃ inner, cs = '"' :: (inner ++ ['"']) ∧ '"' ∉ inner

/-- **A word in quotes** is read as what stands between them. -/
theorem cut_quoted (h : '"' ∉ inner) : cut ('"' :: (inner ++ ['"'])) = [inner] := by
  have hleads : (Piece.quoted inner).Leads [] := ⟨h, endsWord_nil⟩
  have hcut := cut_piece hleads
  rw [Piece.text_quoted_append, cut] at hcut
  exact hcut

/-- **Any other word** is read as it is. -/
theorem cut_word (hne : cs ≠ []) (hdark : ∀ c ∈ cs, Text.isBlank c = false) (h : ¬ IsQuoted cs) :
    cut cs = [cs] := by
  have hopens : ¬ Opens (cs ++ []) := by
    rw [List.append_nil]
    rintro ⟨ds, rfl, inner, rest, rfl, hinner, hends⟩
    -- the second quote is not the end of the word, and no blank is after it
    cases rest with
    | nil => exact h ⟨inner, rfl, hinner⟩
    | cons d rest =>
      have hd : Text.isBlank d = false := hdark d (by simp)
      rw [endsWord_cons.1 hends] at hd
      cases hd
  have hleads : (Piece.plain cs).Leads [] := ⟨hne, hdark, endsWord_nil, hopens⟩
  have hcut := cut_piece hleads
  rw [List.append_nil, cut] at hcut
  exact hcut

end Token

/-! ## Aliases -/

/-- **An alias as it is kept**: a word of low characters. -/
structure IsAlias (a : String) : Prop where
  /-- It is not empty. -/
  nonempty : a.toList ≠ []
  /-- None of its characters is blank. -/
  dark : ∀ c ∈ a.toList, Text.isBlank c = false
  /-- Lowering leaves its characters alone. -/
  low : ∀ c ∈ a.toList, Text.IsLow c

/-- That the aliases of a command are as they should be. -/
def Command.Tidy (command : Command) : Prop := ∀ a ∈ command.aliases, IsAlias a

section Aliases

variable {command other : Command} {called a : String}

/-- Lowering a word gives an alias. -/
theorem isAlias_lowered (hne : called ≠ "") (hdark : called.toList.any Text.isBlank = false) :
    IsAlias (Text.lowered called) := by
  have hlist : (Text.lowered called).toList = Text.lowerIn [] called.toList [] := by
    rw [Text.lowered, String.toList_ofList, Text.lower_eq]
  rw [List.any_eq_false] at hdark
  refine ⟨fun hnil => ?_, fun c hc => ?_, fun c hc => ?_⟩
  · have hlength := congrArg List.length (hlist.symm.trans hnil)
    rw [Text.length_lowerIn, List.length_nil] at hlength
    exact hne (String.toList_eq_nil_iff.1 (List.eq_nil_of_length_eq_zero (by omega)))
  · rw [hlist] at hc
    refine Bool.eq_false_iff.2 fun hblank => ?_
    obtain ⟨d, hd, hdblank⟩ := (Text.of_mem_lowerIn hc).2 hblank
    exact hdark d hd hdblank
  · rw [hlist] at hc
    exact (Text.of_mem_lowerIn hc).1

/-- **What `addAlias` keeps is an alias.** -/
theorem Command.Tidy.addAlias (h : command.Tidy) (hadd : command.addAlias called = .ok other) :
    other.Tidy := by
  rw [Command.addAlias] at hadd
  split at hadd
  · cases hadd
  · next hne =>
    split at hadd
    · cases hadd
    · next hdark =>
      cases hadd
      intro a ha
      rcases List.mem_append.1 ha with ha | ha
      · exact h a ha
      · rw [List.mem_singleton.1 ha]
        exact isAlias_lowered hne (Bool.eq_false_iff.2 hdark)

/-- Every call on a command keeps its aliases as they should be. -/
theorem Command.Tidy.change {call : CommandCall} (h : command.Tidy)
    (hchange : call.change command = .ok other) : other.Tidy := by
  cases call with
  | addAlias called => exact h.addAlias hchange
  | setDescription description => cases hchange; exact h
  | restrictAccess level => cases hchange; exact h
  | setAction action => cases hchange; exact h
  | setPrecondition precondition => cases hchange; exact h

theorem tidy_of_make (h : Command.make called = .ok command) : command.Tidy := by
  rw [Command.make] at h
  split at h
  · cases h
  · cases h
    exact fun a ha => absurd ha List.not_mem_nil

theorem Command.Tidy.addArgument {siblings : List Slot} {id : SlotId} {slot : Slot}
    (h : command.Tidy) (hadd : command.addArgument siblings id slot = .ok other) :
    other.Tidy := by
  obtain ⟨_, -, hadd⟩ := steps_eq_ok hadd
  cases hadd
  exact h

end Aliases

/-! ## What is built -/

namespace Hub

open HubM

/-- **A furnished hub**: the aliases of its commands are as they should be, and its
registries hold commands that are there. -/
structure Furnished (hub : Hub) : Prop where
  /-- The aliases are as they should be. -/
  tidy : ∀ command ∈ hub.commands, command.Tidy
  /-- Registered commands are there. -/
  there : ∀ registry ∈ hub.registries, ∀ id ∈ registry.commands, id < hub.commands.length

/-- That a call is about a command that is there, as far as it registers one. -/
def Offers (hub : Hub) : BuilderCall → Prop
  | .register _ id => id < hub.commands.length
  | _ => True

/-- **What a host can come to**: from nothing, by builder calls and by lines. -/
inductive Reachable : Hub → Prop
  /-- Nothing is there. -/
  | new : Reachable {}
  /-- A builder call is made, or refused. -/
  | built {hub : Hub} (call : BuilderCall) : Reachable hub → hub.Offers call →
      Reachable (call.run.after hub)
  /-- A line is dispatched, whatever comes of it. -/
  | parsed {hub : Hub} (line : Line) : Reachable hub → Reachable (line.parse.after hub)

namespace Furnished

variable {hub : Hub} {id : CommandId}

theorem commandAt (h : hub.Furnished) (id : CommandId) : (hub.commandAt id).Tidy := by
  cases hc : hub.commands[id]? with
  | some command =>
    rw [commandAt_eq hc]
    exact h.tidy command (List.mem_of_getElem? hc)
  | none =>
    rw [Hub.commandAt, hc]
    exact fun a ha => absurd ha List.not_mem_nil

theorem registryAt (h : hub.Furnished) {r : RegistryId} (hid : id ∈ (hub.registryAt r).commands) :
    id < hub.commands.length := by
  obtain ⟨registry, hregistry, hmem⟩ := HubM.registered_of_mem hid
  exact h.there registry hregistry id hmem

theorem of_same {other : Hub} (h : hub.Furnished) (hcommands : other.commands = hub.commands)
    (hregistries : other.registries = hub.registries) : other.Furnished := by
  constructor
  · rw [hcommands]
    exact h.tidy
  · rw [hcommands, hregistries]
    exact h.there

theorem parsed (h : hub.Furnished) (line : Line) : (line.parse.after hub).Furnished := by
  have hakin := (Journalled.contained_parseWithin hub HubM.nestingLimit [] line.registry line.text
    line.level).keeps hub (akin_refl hub)
  have hrun : (Journalled.parseWithin HubM.nestingLimit line.registry line.text line.level).run =
      line.parse := congrFun (congrFun (congrFun (Journalled.plain_parseWithin HubM.nestingLimit)
    line.registry) line.text) line.level
  rw [hrun] at hakin
  exact h.of_same hakin.commands_eq hakin.registries_eq

theorem setCommand {command : Command} (h : hub.Furnished) (hc : command.Tidy) :
    ({ hub with commands := hub.commands.set id command } : Hub).Furnished := by
  constructor
  · intro other hother
    rcases List.mem_or_eq_of_mem_set hother with hold | rfl
    · exact h.tidy other hold
    · exact hc
  · intro registry hregistry id' hid'
    rw [List.length_set]
    exact h.there registry hregistry id' hid'

theorem newCommand {command : Command} (h : hub.Furnished) (hc : command.Tidy) :
    ({ hub with commands := hub.commands ++ [command] } : Hub).Furnished := by
  constructor
  · intro other hother
    rcases List.mem_append.1 hother with hold | hnew
    · exact h.tidy other hold
    · rw [List.mem_singleton.1 hnew]
      exact hc
  · intro registry hregistry id hid
    rw [List.length_append]
    exact Nat.lt_add_right _ (h.there registry hregistry id hid)

/-- Keeping another registry under a number, which holds commands that are there. -/
theorem setRegistry {r : RegistryId} {registry : Registry} (h : hub.Furnished)
    (hthere : ∀ id ∈ registry.commands, id < hub.commands.length) :
    ({ hub with registries := hub.registries.set r registry } : Hub).Furnished := by
  refine ⟨h.tidy, fun other hother => ?_⟩
  rcases List.mem_or_eq_of_mem_set hother with hold | rfl
  · exact h.there other hold
  · exact hthere

/-- Keeping a new registry, which holds nothing. -/
theorem newRegistry {registry : Registry} (h : hub.Furnished) (hempty : registry.commands = []) :
    ({ hub with registries := hub.registries ++ [registry] } : Hub).Furnished := by
  refine ⟨h.tidy, fun other hother id hid => ?_⟩
  rcases List.mem_append.1 hother with hold | hnew
  · exact h.there other hold id hid
  · rw [List.mem_singleton.1 hnew, hempty] at hid
    exact absurd hid List.not_mem_nil

/-- **A builder call keeps a hub furnished.** -/
theorem built (h : hub.Furnished) {call : BuilderCall} (hoffers : hub.Offers call) :
    (call.run.after hub).Furnished := by
  have hcommand : ∀ id, HubM.command id hub = .ok (hub.commandAt id) hub := fun _ => rfl
  cases call with
  | newSlot name optional =>
    rw [BuilderCall.run]
    cases Slot.make name optional <;> exact h.of_same rfl rfl
  | infer text =>
    have hinfer := infer_eq text hub
    cases hread : Notation.read text with
    | error e =>
      rw [hread] at hinfer
      rw [BuilderCall.run, HubM.after, bind_error hinfer]
      exact h
    | ok slots =>
      rw [hread] at hinfer
      rw [BuilderCall.run, HubM.after, bind_ok hinfer]
      exact h.of_same rfl rfl
  | onSlot id call =>
    rw [BuilderCall.run, changeSlot, HubM.after, bind_ok (slot_eq id hub)]
    cases call.change (hub.slotAt id) <;> exact h.of_same rfl rfl
  | addNested owner nested =>
    rw [BuilderCall.run, HubM.after, addNested_eq]
    cases (hub.slotAt owner).addNested _ nested (hub.slotAt nested) <;> exact h.of_same rfl rfl
  | addOption owner option =>
    rw [BuilderCall.run, HubM.after, addOption_eq]
    cases (hub.slotAt owner).addOption _ option (hub.slotAt option) <;> exact h.of_same rfl rfl
  | newCommand name =>
    rw [BuilderCall.run]
    cases hmake : Command.make name with
    | error e => exact h.of_same rfl rfl
    | ok command => exact h.newCommand (tidy_of_make hmake)
  | onCommand id call =>
    rw [BuilderCall.run, buildCommand, HubM.after, bind_ok (hcommand id)]
    cases hchange : call.change (hub.commandAt id) with
    | error e => exact h.of_same rfl rfl
    | ok command => exact h.setCommand ((h.commandAt id).change hchange)
  | addArgument id argument =>
    rw [BuilderCall.run, HubM.addArgument, HubM.after, bind_ok (hcommand id),
      bind_ok (slotsOf_eq _ hub), bind_ok (slot_eq argument hub)]
    cases hadd : (hub.commandAt id).addArgument _ argument (hub.slotAt argument) with
    | error e => exact h.of_same rfl rfl
    | ok command => exact h.setCommand ((h.commandAt id).addArgument hadd)
  | newRegistry marker colorful fancy => exact h.newRegistry rfl
  | onRegistry r call =>
    have hsame : (call.change (hub.registryAt r)).commands = (hub.registryAt r).commands := by
      cases call <;> rfl
    exact h.setRegistry fun id hid => h.registryAt (hsame ▸ hid)
  | register r id =>
    obtain ⟨result, hvalidate⟩ : ∃ result : Except Failure Unit,
        HubM.validate id hub = conclude result hub := ⟨_, rfl⟩
    cases result with
    | error failure =>
      rw [BuilderCall.run, HubM.register, HubM.after, bind_error hvalidate]
      exact h
    | ok _ =>
      rw [BuilderCall.run, HubM.register, HubM.after, bind_ok hvalidate]
      have hthere : ∀ other ∈ (hub.registryAt r).commands ++ [id], other < hub.commands.length := by
        intro other hother
        rcases List.mem_append.1 hother with hold | hnew
        · exact h.registryAt hold
        · rw [List.mem_singleton.1 hnew]
          exact hoffers
      have hkept : ({ hub with registries := hub.registries.set r { hub.registryAt r with
          commands := (hub.registryAt r).commands ++ [id] } } : Hub).Furnished :=
        h.setRegistry hthere
      exact hkept.of_same rfl rfl

end Furnished

/-- **Whatever a host can come to is furnished.** -/
theorem Reachable.furnished {hub : Hub} (h : hub.Reachable) : hub.Furnished := by
  induction h with
  | new => exact ⟨fun _ h => absurd h List.not_mem_nil, fun _ h => absurd h List.not_mem_nil⟩
  | built call _ hoffers ih => exact ih.built hoffers
  | parsed line _ ih => exact ih.parsed line

/-! ## Typing an alias -/

/-- The first command of a registry that has an alias. -/
def owner? (hub : Hub) (registry : Registry) (called : String) : Option CommandId :=
  registry.commands.find? fun id => (hub.commandAt id).aliases.contains called

section Typing

variable {hub : Hub} {registry : Registry} {line : Line} {id : CommandId} {called : String}
variable {words : List String}

/-- **A word calls the first command that has it as an alias**, once it is lowered. -/
theorem resolved_eq_owner? (registry : Registry)
    (hthere : ∀ id ∈ registry.commands, id < hub.commands.length) (called : String) :
    (Registry.position? called ((registry.commands.filterMap (hub.commands[·]?)).map
        (·.toSignature))).bind (registry.commands[·]?) =
      hub.owner? registry (Text.lowered called) := by
  rw [Registry.position?, owner?]
  generalize registry.commands = ids at hthere
  induction ids with
  | nil => rfl
  | cons id ids ih =>
    obtain ⟨hid, hids⟩ := List.forall_mem_cons.1 hthere
    rw [List.filterMap_cons, getElem?_commandAt hid, List.map_cons, List.findIdx?_cons,
      List.find?_cons]
    cases hhas : (hub.commandAt id).aliases.contains (Text.lowered called) with
    | true => rfl
    | false =>
      rw [if_neg Bool.false_ne_true, Option.bind_map]
      exact ih hids

/-- Without a marker a line that is trimmed is taken as it is. -/
theorem callIn?_of_trimmed (hmarker : registry.marker = "")
    (hne : called.toList ≠ []) (htrimmed : Text.IsTrimmed called.toList) :
    registry.callIn? called = some called := by
  rw [Registry.callIn?, hmarker, htrimmed.strip_eq, String.ofList_toList]
  simp only [List.isEmpty_iff, hne, if_false]
  rfl

theorem lowered_of_low {cs : List Char} (h : ∀ c ∈ cs, Text.IsLow c) :
    Text.lowered (String.ofList cs) = String.ofList cs := by
  rw [Text.lowered, String.toList_ofList, Text.lower_eq, Text.lowerIn_of_isLow h]

theorem exists_owner (hid : id ∈ registry.commands) (ha : called ∈ (hub.commandAt id).aliases) :
    ∃ first, hub.owner? registry called = some first := by
  rw [owner?, ← Option.isSome_iff_exists, List.find?_isSome]
  exact ⟨id, hid, List.contains_iff_mem.2 ha⟩

/-- **A line that is a single lowered token** calls the owner of the token, or is reported
as one that calls nothing. -/
theorem parseWith_of_token (h : hub.Furnished)
    (hcall : (hub.registryAt line.registry).callIn? line.text = some line.text)
    (htokens : Token.tokenize line.text = [called]) (hlowered : Text.lowered called = called) :
    hub.called? line = hub.owner? (hub.registryAt line.registry) called ∧
      ∀ nested, HubM.parseWith nested line.registry line.text line.level hub =
        ((match hub.owner? (hub.registryAt line.registry) called with
          | none => HubM.reportUnknown nested (hub.registryAt line.registry) called
          | some first => HubM.serve nested (hub.registryAt line.registry) first line.text called []
              line.level) >>= fun _ => pure true) hub := by
  have howner := resolved_eq_owner? (hub.registryAt line.registry)
    (fun id hid => h.registryAt hid) called
  rw [hlowered] at howner
  constructor
  · rw [called?]
    simp only [hcall, htokens]
    exact howner
  · intro nested
    have hresolve : HubM.resolve (hub.registryAt line.registry) called hub =
        .ok (hub.owner? (hub.registryAt line.registry) called) hub :=
      congrArg (EStateM.Result.ok · hub) howner
    rw [HubM.parseWith, bind_ok (registry_eq _ hub)]
    simp only [hcall, htokens]
    rw [bind_ok hresolve]
    cases hub.owner? (hub.registryAt line.registry) called <;> rfl

/-- **Typing an alias back.** On a hub that a host can come to, let a line for a registry
without a marker consist of an alias of a registered command. Unless the alias stands in
quotes, the line calls the first command that has it, with no words for its grammar. An
alias in quotes calls the first command that has what stands between them; if there is none,
this is reported as a word that calls nothing. -/
theorem called?_of_alias (h : hub.Reachable) (line : Line)
    (hmarker : (hub.registryAt line.registry).marker = "")
    (hid : id ∈ (hub.registryAt line.registry).commands)
    (ha : line.text ∈ (hub.commandAt id).aliases) :
    (¬ Token.IsQuoted line.text.toList →
      ∃ first, hub.owner? (hub.registryAt line.registry) line.text = some first ∧
        hub.called? line = some first ∧
        ∀ nested, HubM.parseWith nested line.registry line.text line.level hub =
          (HubM.serve nested (hub.registryAt line.registry) first line.text line.text []
            line.level >>= fun _ => pure true) hub) ∧
    ∀ inner, line.text.toList = '"' :: (inner ++ ['"']) → '"' ∉ inner →
      hub.called? line = hub.owner? (hub.registryAt line.registry) (String.ofList inner) ∧
      (hub.called? line = none →
        ∀ nested, HubM.parseWith nested line.registry line.text line.level hub =
          (HubM.reportUnknown nested (hub.registryAt line.registry) (String.ofList inner) >>=
            fun _ => pure true) hub) := by
  have hfurnished := h.furnished
  have halias : IsAlias line.text := hfurnished.commandAt id line.text ha
  have htrimmed := Text.isTrimmed_of_forall halias.dark
  have hcall := callIn?_of_trimmed hmarker halias.nonempty htrimmed
  have htokens : Token.tokenize line.text = (Token.cut line.text.toList).map String.ofList := by
    rw [Token.tokenize, htrimmed.strip_eq]
  refine ⟨fun hplain => ?_, fun inner hinner hnone => ?_⟩
  · rw [Token.cut_word halias.nonempty halias.dark hplain, List.map_singleton,
      String.ofList_toList] at htokens
    have hlowered : Text.lowered line.text = line.text := by
      have hlow := lowered_of_low halias.low
      rwa [String.ofList_toList] at hlow
    obtain ⟨first, howner⟩ := exists_owner hid ha
    obtain ⟨hcalled, hparse⟩ := parseWith_of_token hfurnished hcall htokens hlowered
    simp only [howner] at hcalled hparse
    exact ⟨first, howner, hcalled, hparse⟩
  · have hlow : ∀ c ∈ inner, Text.IsLow c := fun c hc => halias.low c (by
      rw [hinner]
      exact List.mem_cons_of_mem _ (List.mem_append_left _ hc))
    -- the quotes are gone from the token, and with them the alias
    rw [hinner, Token.cut_quoted hnone, List.map_singleton] at htokens
    obtain ⟨hcalled, hparse⟩ := parseWith_of_token hfurnished hcall htokens (lowered_of_low hlow)
    refine ⟨hcalled, fun hunknown nested => ?_⟩
    rw [hparse nested, ← hcalled, hunknown]

end Typing

/-- Calls that build a command with two aliases, one of them in quotes. -/
def kickCalls : List BuilderCall :=
  [.newCommand "Kick", .onCommand 0 (.addAlias "kick"), .onCommand 0 (.addAlias "\"ban\""),
   .newRegistry "" false false, .register 0 0]

/-- Of these aliases the one in quotes cannot be typed back. -/
theorem kick_called :
    "kick" ∈ ((construct kickCalls).hub.commandAt 0).aliases ∧
      (construct kickCalls).hub.called? ⟨0, "kick", .int 0⟩ = some 0 ∧
      "\"ban\"" ∈ ((construct kickCalls).hub.commandAt 0).aliases ∧
      (construct kickCalls).hub.called? ⟨0, "\"ban\"", .int 0⟩ = none := by
  have hcommand : (construct kickCalls).hub.commandAt 0 =
      { name := "Kick", aliases := ["kick", "\"ban\""] } := rfl
  have hreachable : (construct kickCalls).hub.Reachable :=
    .built (.register 0 0) (.built (.newRegistry "" false false)
      (.built (.onCommand 0 (.addAlias "\"ban\"")) (.built (.onCommand 0 (.addAlias "kick"))
        (.built (.newCommand "Kick") .new trivial) trivial) trivial) trivial) (Nat.zero_lt_succ 0)
  have hmarker : ((construct kickCalls).hub.registryAt 0).marker = "" := rfl
  have hid : 0 ∈ ((construct kickCalls).hub.registryAt 0).commands := by decide
  have hkick : "kick" ∈ ((construct kickCalls).hub.commandAt 0).aliases := by
    rw [hcommand]
    decide
  have hban : "\"ban\"" ∈ ((construct kickCalls).hub.commandAt 0).aliases := by
    rw [hcommand]
    decide
  obtain ⟨hplain, -⟩ := called?_of_alias hreachable ⟨0, "kick", .int 0⟩ hmarker hid hkick
  obtain ⟨-, hquoted⟩ := called?_of_alias hreachable ⟨0, "\"ban\"", .int 0⟩ hmarker hid hban
  refine ⟨hkick, ?_, hban, ?_⟩
  · have hbare : ¬ Token.IsQuoted "kick".toList := by
      rintro ⟨inner, hquoted, -⟩
      have hfirst : some 'k' = some '"' := congrArg List.head? hquoted
      exact absurd hfirst (by decide)
    obtain ⟨first, howner, hcalled, -⟩ := hplain hbare
    rw [hcalled, ← howner]
    decide +kernel
  · rw [(hquoted "ban".toList (by decide) (by decide)).1]
    decide +kernel

end Hub

end Chatline
