import Chatline.Proofs.Dispatch.Alias
import Chatline.Proofs.Dispatch.Escape
/-!
# Suggested aliases

When a word calls nothing, the built-in suggester names the first alias of each command that
is related to the lowered word. `related_iff` and `meant_suggest` say which aliases these
are. `suggestions_meant` says what is reported of such a word: that nothing was found, then
the suggestions if there are any, and each of them is an alias by which a command can be
called that was registered no later than the one it was suggested for.
-/

namespace Chatline

/-! ## Related aliases -/

/-- **That an alias is related to a word.** -/
inductive Related (called word : List Char) : Prop
  /-- It starts with the word. -/
  | starts : word ≠ [] → word <+: called → Related called word
  /-- It starts with the first two characters of the word. -/
  | opening {two : List Char} : two.length = 2 → two <+: word → two <+: called →
      Related called word
  /-- It ends with the last two characters of the word, of which there are more. -/
  | ending {two : List Char} : two.length = 2 → two <:+ word → two ≠ word → two <:+ called →
      Related called word
  /-- It has the first and the last character of the word. -/
  | outer {first last : Char} : [first] <+: word → [first] <+: called → [last] <:+ word →
      [last] <:+ called → Related called word

section Affixes

variable {called word : List Char} {n : Nat}

/-- Starting with the first characters of a word. -/
theorem take_prefix_iff :
    (n ≤ word.length ∧ word.take n <+: called) ↔
      ∃ cs : List Char, cs.length = n ∧ cs <+: word ∧ cs <+: called := by
  constructor
  · rintro ⟨hn, hcalled⟩
    exact ⟨word.take n, List.length_take_of_le hn, List.take_prefix n word, hcalled⟩
  · rintro ⟨cs, rfl, hword, hcalled⟩
    rw [← List.prefix_iff_eq_take.1 hword]
    exact ⟨hword.length_le, hcalled⟩

/-- Ending with the last characters of a word. -/
theorem drop_suffix_iff :
    (n ≤ word.length ∧ word.drop (word.length - n) <:+ called) ↔
      ∃ cs : List Char, cs.length = n ∧ cs <:+ word ∧ cs <:+ called := by
  constructor
  · rintro ⟨hn, hcalled⟩
    refine ⟨_, ?_, List.drop_suffix (word.length - n) word, hcalled⟩
    rw [List.length_drop, Nat.sub_sub_self hn]
  · rintro ⟨cs, rfl, hword, hcalled⟩
    rw [← List.suffix_iff_eq_drop.1 hword]
    exact ⟨hword.length_le, hcalled⟩

/-- **Which aliases are related to a word.** -/
theorem related_iff : Affix.related called word = true ↔ Related called word := by
  cases word with
  | nil =>
    refine iff_of_false Bool.false_ne_true fun h => ?_
    cases h with
    | starts hne => exact hne rfl
    | opening hlength hword => simp [List.prefix_nil.1 hword] at hlength
    | ending hlength hword => simp [List.suffix_nil.1 hword] at hlength
    | outer hfirst => simp at hfirst
  | cons first rest =>
    have hopening : (2 ≤ (first :: rest).length ∧ (first :: rest).take 2 <+: called) ↔ _ :=
      take_prefix_iff
    have hending : (2 ≤ (first :: rest).length ∧
        (first :: rest).drop ((first :: rest).length - 2) <:+ called) ↔ _ := drop_suffix_iff
    have houter : (1 ≤ (first :: rest).length ∧
        (first :: rest).drop ((first :: rest).length - 1) <:+ called) ↔ _ := drop_suffix_iff
    rw [Affix.related]
    simp only [Bool.or_eq_true, Bool.and_eq_true, decide_eq_true_eq, List.isPrefixOf_iff_prefix,
      List.isSuffixOf_iff_suffix]
    constructor
    · rintro (((hstarts | hopen) | ⟨hlong, hend⟩) | ⟨hfirst, hlast⟩)
      · exact .starts (List.cons_ne_nil _ _) hstarts
      · obtain ⟨two, htwo, hword, hcalled⟩ := hopening.1 hopen
        exact .opening htwo hword hcalled
      · obtain ⟨two, htwo, hword, hcalled⟩ := hending.1 ⟨hlong.le, hend⟩
        refine .ending htwo hword (fun heq => ?_) hcalled
        rw [← heq, htwo] at hlong
        exact Nat.lt_irrefl 2 hlong
      · obtain ⟨one, hone, hword, hcalled⟩ := houter.1 ⟨Nat.le_add_left _ _, hlast⟩
        obtain ⟨last, rfl⟩ := List.length_eq_one_iff.1 hone
        exact .outer (List.prefix_append [first] rest) hfirst hword hcalled
    · intro h
      cases h with
      | starts _ hcalled => exact Or.inl (Or.inl (Or.inl hcalled))
      | opening htwo hword hcalled =>
        exact Or.inl (Or.inl (Or.inr (hopening.2 ⟨_, htwo, hword, hcalled⟩)))
      | @ending two htwo hword hne hcalled =>
        obtain ⟨hlong, hend⟩ := hending.2 ⟨_, htwo, hword, hcalled⟩
        refine Or.inl (Or.inr ⟨lt_of_le_of_ne hlong fun heq => hne ?_, hend⟩)
        exact hword.eq_of_length (htwo.trans heq)
      | @outer first' last hword hcalled hlast hends =>
        have hsame : first' = first := (List.cons_prefix_cons.1 hword).1
        rw [hsame] at hcalled
        exact Or.inr ⟨hcalled, (houter.2 ⟨_, rfl, hlast, hends⟩).2⟩

end Affixes

/-! ## What is suggested -/

/-- That an alias is the first of some that is related to a word. -/
def FirstRelated (word : List Char) (aliases : List String) (a : String) : Prop :=
  ∃ before after, aliases = before ++ a :: after ∧
    (∀ b ∈ before, ¬ Related b.toList word) ∧ Related a.toList word

/-- **What is suggested for a word**, for the aliases of some commands in turn. -/
inductive Meant (word : List Char) : List (List String) → List String → Prop
  /-- There is no command left. -/
  | done : Meant word [] []
  /-- A command without a related alias is passed over. -/
  | passed {aliases : List String} {later : List (List String)} {suggestions : List String} :
      (∀ a ∈ aliases, ¬ Related a.toList word) → Meant word later suggestions →
      Meant word (aliases :: later) suggestions
  /-- Of any other command the first related alias is suggested. -/
  | first {aliases : List String} {later : List (List String)} {suggestions : List String}
      {a : String} : FirstRelated word aliases a → Meant word later suggestions →
      Meant word (aliases :: later) (a :: suggestions)

section Meaning

variable {word : List Char} {called a : String} {aliases suggestions : List String}
variable {all : List (List String)}

theorem find?_related_iff :
    (aliases.find? fun a => Affix.related a.toList word) = some a ↔
      FirstRelated word aliases a := by
  rw [List.find?_eq_some_iff_append, related_iff, FirstRelated]
  constructor
  · rintro ⟨hrelated, before, after, hsplit, hbefore⟩
    refine ⟨before, after, hsplit, fun b hb hother => ?_, hrelated⟩
    have hno := hbefore b hb
    rw [related_iff.2 hother] at hno
    cases hno
  · rintro ⟨before, after, hsplit, hbefore, hrelated⟩
    refine ⟨hrelated, before, after, hsplit, fun b hb => ?_⟩
    rw [Bool.not_eq_true']
    exact Bool.eq_false_iff.2 fun hother => hbefore b hb (related_iff.1 hother)

/-- **The built-in suggester** suggests what is meant for the lowered word. -/
theorem meant_suggest (called : String) (commands : List Signature) :
    Meant (Text.lower called.toList) (commands.map (·.aliases))
      (Affix.suggest called commands) := by
  rw [Affix.suggest]
  induction commands with
  | nil => exact .done
  | cons command commands ih =>
    rw [List.map_cons, List.filterMap_cons]
    cases hfind : command.aliases.find? fun a =>
        Affix.related a.toList (Text.lower called.toList) with
    | none =>
      refine .passed (fun a ha hrelated => ?_) ih
      exact List.find?_eq_none.1 hfind a ha (related_iff.2 hrelated)
    | some a => exact .first (find?_related_iff.1 hfind) ih

/-- Something is suggested exactly if some command has a related alias. -/
theorem Meant.ne_nil_iff (h : Meant word all suggestions) :
    suggestions ≠ [] ↔ ∃ aliases ∈ all, ∃ a ∈ aliases, Related a.toList word := by
  induction h with
  | done => simp
  | passed hnone _ ih =>
    simp only [ih, List.mem_cons, exists_eq_or_imp]
    refine ⟨Or.inr, fun h => h.resolve_left ?_⟩
    rintro ⟨a, ha, hrelated⟩
    exact hnone a ha hrelated
  | first hfirst _ _ =>
    obtain ⟨before, after, rfl, -, hrelated⟩ := hfirst
    refine iff_of_true (List.cons_ne_nil _ _) ⟨_, List.mem_cons_self, _, ?_, hrelated⟩
    exact List.mem_append_right _ List.mem_cons_self

/-- The first related alias of each command is suggested. -/
theorem Meant.mem (h : Meant word all suggestions) (haliases : aliases ∈ all)
    (hfirst : FirstRelated word aliases a) : a ∈ suggestions := by
  induction h with
  | done => cases haliases
  | passed hnone _ ih =>
    rcases List.mem_cons.1 haliases with rfl | hlater
    · obtain ⟨before, after, rfl, -, hrelated⟩ := hfirst
      exact absurd hrelated (hnone a (List.mem_append_right _ List.mem_cons_self))
    · exact ih hlater
  | first hother _ ih =>
    rcases List.mem_cons.1 haliases with rfl | hlater
    · have hsame := (find?_related_iff.2 hfirst).symm.trans (find?_related_iff.2 hother)
      rw [Option.some.inj hsame]
      exact List.mem_cons_self
    · exact List.mem_cons_of_mem _ (ih hlater)

/-- **Letter case does not matter** to what is suggested. -/
theorem suggest_lowered (called : String) (commands : List Signature) :
    Affix.suggest (Text.lowered called) commands = Affix.suggest called commands := by
  rw [Affix.suggest, Text.lowered, String.toList_ofList, Text.lower_lower, Affix.suggest]

end Meaning

/-! ## What is reported -/

/-- What a registry enters for a word that calls nothing, as long as its sink does not
fail. -/
def Registry.announcing (registry : Registry) (called : String) (suggestions : List String) :
    List Entry :=
  registry.delivery (Registry.notFound called) (.ok ()) ::
    if suggestions = [] then []
    else [registry.delivery (Registry.didYouMean called (suggestions.map .text)) (.ok ())]

/-- And so what is handed over are the fault of the word and the hint at the suggestions. -/
theorem Registry.announced_announcing {registry : Registry} (called : String)
    (suggestions : List String) :
    Announced registry called (suggestions.map .text)
      (deliveries (registry.announcing called suggestions)) := by
  rw [Registry.announcing]
  cases suggestions with
  | nil => exact Registry.announced_notFound
  | cons suggestion more => exact Registry.announced_didYouMean (List.cons_ne_nil _ _)

/-- The commands of a registry, as the suggester sees them. -/
def Hub.signatures (hub : Hub) (registry : Registry) : List Signature :=
  (registry.commands.filterMap (hub.commands[·]?)).map (·.toSignature)

section Reports

variable {base hub : Hub} {nested : Journalled.Dispatcher} {registry : Registry} {line : Line}
variable {called : String} {words : List String} {id : CommandId} {r : RegistryId}

theorem Hub.Akin.signatures_eq (h : base.Akin hub) :
    hub.signatures registry = base.signatures registry := by
  rw [Hub.signatures, h.commands_eq, Hub.signatures]

/-- Where all commands are there, their aliases can be looked up one by one. -/
theorem Hub.Furnished.aliases_signatures (h : hub.Furnished) :
    (hub.signatures (hub.registryAt r)).map (·.aliases) =
      (hub.registryAt r).commands.map fun id => (hub.commandAt id).aliases := by
  have hall : ∀ ids : List CommandId, (∀ id ∈ ids, id < hub.commands.length) →
      ((ids.filterMap (hub.commands[·]?)).map (·.toSignature)).map (·.aliases) =
        ids.map fun id => (hub.commandAt id).aliases := by
    intro ids hids
    induction ids with
    | nil => rfl
    | cons id ids ih =>
      obtain ⟨hid, hids⟩ := List.forall_mem_cons.1 hids
      rw [List.filterMap_cons, Hub.getElem?_commandAt hid, List.map_cons, List.map_cons, ih hids,
        List.map_cons]
  exact hall _ fun id hid => h.registryAt hid

namespace Journalled

/-- The built-in suggester is asked, and does not fail. -/
theorem takes_suggest_affix (hs : registry.suggester = .affix) :
    Takes base (suggest nested registry (.text called)) fun entries ended => entries = [] ∧
      ended = .ok ((Affix.suggest called (base.signatures registry)).map .text) := by
  rw [suggest, hs]
  refine Takes.quietly fun hub hakin => ⟨rfl, ?_⟩
  rw [HubM.suggest, hs, ← hakin.signatures_eq]
  rfl

/-- **What is reported of a word that calls nothing**, by the built-in suggester and a sink
that does not fail. -/
theorem takes_announcing (h : registry.Accepts) (hn : ContainedDispatcher base nested)
    (hs : registry.suggester = .affix) :
    Takes base (reportUnknown nested registry called) fun entries ended => ended = .ok () ∧
      entries = registry.announcing called (Affix.suggest called (base.signatures registry)) := by
  refine takes_unknown_accepted h hn (takes_suggest_affix hs) ?_ ?_ ?_
  · rintro asked failure ⟨-, hfailed⟩
    cases hfailed
  · rintro asked ⟨rfl, hnone⟩
    have hempty := List.map_eq_nil_iff.1 (Except.ok.inj hnone).symm
    rw [Registry.announcing, hempty]
    exact ⟨rfl, rfl⟩
  · rintro asked suggestion more ⟨rfl, hsome⟩
    have hsuggestions := Except.ok.inj hsome
    have hne : Affix.suggest called (base.signatures registry) ≠ [] := by
      intro hempty
      rw [hempty] at hsuggestions
      cases hsuggestions
    rw [Registry.announcing, if_neg hne, hsuggestions]
    exact ⟨rfl, rfl⟩

theorem announcing_of_uncalled (depth : Nat) (h : (hub.registryAt line.registry).Accepts)
    (hs : (hub.registryAt line.registry).suggester = .affix)
    (htokens : hub.tokens line = called :: words) (hcalled : hub.called? line = none) :
    own ((parseWithin (depth + 1) line.registry line.text line.level).entries hub) =
        (hub.registryAt line.registry).announcing called
          (Affix.suggest called (hub.signatures (hub.registryAt line.registry))) ∧
      (parseWithin (depth + 1) line.registry line.text line.level).run.ended hub = .ok true := by
  obtain ⟨text, hentries, hended⟩ := parseWith_of_tokens (parseWithin depth) htokens
  rw [hcalled] at hentries hended
  obtain ⟨hok, hown⟩ :=
    takes_announcing h (contained_parseWithin hub depth) hs hub (Hub.akin_refl hub)
  rw [parseWithin, hentries, hended]
  exact ⟨hown, by rw [hok]; rfl⟩

end Journalled

/-- **An alias of a command calls it**, or one that was registered before it. -/
theorem resolve_of_alias (h : hub.Furnished) {position : Nat} {a : String}
    (hid : (hub.registryAt r).commands[position]? = some id)
    (ha : a ∈ (hub.commandAt id).aliases) :
    ∃ earlier first, earlier ≤ position ∧ (hub.registryAt r).commands[earlier]? = some first ∧
      HubM.resolve (hub.registryAt r) a hub = .ok (some first) hub := by
  have hmem : id ∈ (hub.registryAt r).commands := List.mem_of_getElem? hid
  obtain ⟨first, howner⟩ := Hub.exists_owner hmem ha
  have hlowered : Text.lowered a = a := by
    have hlow := Hub.lowered_of_low (h.commandAt id a ha).low
    rwa [String.ofList_toList] at hlow
  have hresolved := Hub.resolved_eq_owner? (hub.registryAt r) (fun id hid => h.registryAt hid) a
  rw [hlowered, howner] at hresolved
  have hresolve : HubM.resolve (hub.registryAt r) a hub = .ok (some first) hub :=
    congrArg (EStateM.Result.ok · hub) hresolved
  obtain ⟨-, before, after, hsplit, hbefore⟩ := List.find?_eq_some_iff_append.1 howner
  refine ⟨before.length, first, Nat.le_of_not_lt fun hlt => ?_, ?_, hresolve⟩
  · -- none of the commands before the first has the alias
    rw [hsplit, List.getElem?_append_left hlt] at hid
    have hno := hbefore id (List.mem_of_getElem? hid)
    rw [List.contains_iff_mem.2 ha] at hno
    cases hno
  · rw [hsplit, List.getElem?_append_right (Nat.le_refl _), Nat.sub_self, List.getElem?_cons_zero]

/-- **Suggestions are sound and complete.** On a hub that a host can come to, let a line for
a registry with the built-in suggester and a sink that does not fail begin with a word that
calls nothing. Then nothing fails, and what is handed to the sink is a fault of the kind for
unknown commands, which names the word, and after it, if there are any suggestions, one of the
kind for related commands, which lists them. These are the first related aliases of the
commands that have one, in the order of registration, so there are some exactly if some
command has an alias that is related to the lowered word. Each suggestion calls a command
that was registered no later than the one that it is an alias of. What is suggested for a
word is suggested for its lowered form. -/
theorem suggestions_meant (depth : Nat) (h : hub.Reachable) (line : Line)
    (haccepts : (hub.registryAt line.registry).Accepts)
    (hsuggester : (hub.registryAt line.registry).suggester = .affix)
    (htokens : hub.tokens line = called :: words) (hcalled : hub.called? line = none) :
    let registry := hub.registryAt line.registry
    let p := Journalled.parseWithin (depth + 1) line.registry line.text line.level
    let word := Text.lower called.toList
    p.run = HubM.parseWithin (depth + 1) line.registry line.text line.level ∧
      p.run.ended hub = .ok true ∧
      (∃ suggestions,
        own (p.entries hub) = registry.announcing called suggestions ∧
        Announced registry called (suggestions.map .text) (deliveries (own (p.entries hub))) ∧
        Meant word (registry.commands.map fun id => (hub.commandAt id).aliases) suggestions ∧
        (suggestions ≠ [] ↔
          ∃ id ∈ registry.commands, ∃ a ∈ (hub.commandAt id).aliases, Related a.toList word) ∧
        ∀ (position : Nat) (id : CommandId) (a : String), registry.commands[position]? = some id →
          FirstRelated word (hub.commandAt id).aliases a →
          a ∈ suggestions ∧ ∃ (earlier : Nat) (first : CommandId), earlier ≤ position ∧
            registry.commands[earlier]? = some first ∧
            HubM.resolve registry a hub = .ok (some first) hub) ∧
      ∀ nested other, HubM.suggest nested registry (.text (Text.lowered other)) =
        HubM.suggest nested registry (.text other) := by
  intro registry p word
  have hfurnished := h.furnished
  have hplain := congrFun (congrFun (congrFun (Journalled.plain_parseWithin (depth + 1))
    line.registry) line.text) line.level
  obtain ⟨hown, hended⟩ :=
    Journalled.announcing_of_uncalled depth haccepts hsuggester htokens hcalled
  have hmeant := meant_suggest called (hub.signatures registry)
  rw [hfurnished.aliases_signatures] at hmeant
  have hannounced := registry.announced_announcing called
    (Affix.suggest called (hub.signatures registry))
  rw [← hown] at hannounced
  refine ⟨hplain, hended, ⟨_, hown, hannounced, hmeant, ?_, fun position id a hid hfirst => ?_⟩,
    fun nested other => ?_⟩
  · rw [hmeant.ne_nil_iff]
    simp only [List.mem_map, exists_exists_and_eq_and]
    rfl
  · have hmem : id ∈ registry.commands := List.mem_of_getElem? hid
    have ha : a ∈ (hub.commandAt id).aliases := by
      obtain ⟨before, after, hsplit, -, -⟩ := hfirst
      rw [hsplit]
      exact List.mem_append_right _ List.mem_cons_self
    exact ⟨hmeant.mem (List.mem_map_of_mem hmem) hfirst, resolve_of_alias hfurnished hid ha⟩
  · rw [HubM.suggest, HubM.suggest, hsuggester]
    simp only [suggest_lowered]

end Reports

/-- A registry with a sink that takes every fault, and a command with an alias in it. -/
def alertCalls : List BuilderCall :=
  [.newCommand "Kick", .onCommand 0 (.addAlias "Kick"), .newRegistry "" false false,
   .register 0 0, .onRegistry 0 (.onError fun _ => .done .null)]

/-- A word that begins like the alias but for the letter case has it suggested. -/
theorem kick_suggested :
    let hub := (construct alertCalls).hub
    let line : Line := ⟨0, "KILL bob", .int 0⟩
    hub.Reachable ∧ (hub.registryAt 0).Accepts ∧ (hub.registryAt 0).suggester = .affix ∧
      hub.tokens line = ["KILL", "bob"] ∧ hub.called? line = none ∧
      own ((Journalled.parseWithin 1 0 "KILL bob" (.int 0)).entries hub) =
        (hub.registryAt 0).announcing "KILL" ["kick"] ∧
      (∃ unknown hint,
        deliveries (own ((Journalled.parseWithin 1 0 "KILL bob" (.int 0)).entries hub)) =
          [unknown, hint] ∧
        unknown.kind = .coded .unknownCommand ∧ unknown.option? "input" = some (.text "KILL") ∧
        hint.kind = .coded .relatedCommands ∧
        hint.option? "suggestions" = some (.datum (.tuple [.text "kick"]))) ∧
      HubM.resolve (hub.registryAt 0) "kick" hub = .ok (some 0) hub := by
  intro hub line
  have hreachable : hub.Reachable :=
    .built (.onRegistry 0 (.onError fun _ => .done .null)) (.built (.register 0 0)
      (.built (.newRegistry "" false false) (.built (.onCommand 0 (.addAlias "Kick"))
        (.built (.newCommand "Kick") .new trivial) trivial) trivial) (Nat.zero_lt_succ 0)) trivial
  have haccepts : (hub.registryAt 0).Accepts := ⟨_, rfl, fun _ _ _ => ⟨_, rfl⟩⟩
  have htokens : hub.tokens line = ["KILL", "bob"] := by decide +kernel
  have hcalled : hub.called? line = none := by decide +kernel
  have haliases : (hub.commandAt 0).aliases = ["kick"] := rfl
  have hword : Text.lower "KILL".toList = "kill".toList := by decide +kernel
  have hrelated : Related "kick".toList "kill".toList := related_iff.1 (by decide)
  obtain ⟨-, -, ⟨suggestions, hown, hannounced, hmeant, -, hresolve⟩, -⟩ :=
    suggestions_meant 0 hreachable line haccepts rfl htokens hcalled
  rw [hword] at hmeant hresolve
  have hfirst : FirstRelated "kill".toList (hub.commandAt 0).aliases "kick" :=
    ⟨[], [], haliases, fun _ hb => absurd hb List.not_mem_nil, hrelated⟩
  obtain ⟨-, earlier, first, hearlier, hposition, hresolved⟩ := hresolve 0 0 "kick" rfl hfirst
  obtain rfl := Nat.le_zero.1 hearlier
  cases hposition
  have hsuggestions : suggestions = ["kick"] := by
    have hmeant : Meant "kill".toList [["kick"]] suggestions := hmeant
    cases hmeant with
    | passed hnone => exact absurd hrelated (hnone _ (List.mem_singleton_self _))
    | first hother hlater =>
      cases hlater
      have hsame := (find?_related_iff.2 hother).symm.trans (find?_related_iff.2 hfirst)
      rw [Option.some.inj hsame]
  have hsame : Journalled.parseWithin (0 + 1) line.registry line.text line.level =
      Journalled.parseWithin 1 0 "KILL bob" (.int 0) := rfl
  rw [hsame, hsuggestions] at hown hannounced
  refine ⟨hreachable, haccepts, rfl, htokens, hcalled, hown, ?_, hresolved⟩
  generalize deliveries (own ((Journalled.parseWithin 1 0 "KILL bob" (.int 0)).entries hub)) =
    faults at hannounced ⊢
  cases hannounced with
  | hinted _ hunknown hhint =>
    have hinput := (hunknown.details _ _).2 List.mem_cons_self
    have hlisted := (hhint.details _ _).2 (List.mem_cons_of_mem _ List.mem_cons_self)
    exact ⟨_, _, rfl, hunknown.kind, hinput, hhint.kind, hlisted⟩

end Chatline
