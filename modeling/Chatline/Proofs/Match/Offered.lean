import Chatline.Proofs.Match.Choice
import Chatline.Proofs.Hub.Named
/-!
# The options that messages offer

A message lists the options of an enum in quotes and marks the default. Checking, listing
and matching each decide for themselves which option the default is. `offered_default` says
that they agree once the grammar passes validation and no two options have the same name up
to letter case: exactly one option is marked, and it is the one that is chosen when a word
names none.
-/

namespace Chatline

namespace Text

/-! ## Lists in a sentence -/

/-- **That a phrase lists some items**: in order, the last of several after `or` and a comma,
and a comma between any two others. -/
inductive Listed : List String → String → Prop
  /-- No items. -/
  | none : Listed [] ""
  /-- One item alone. -/
  | one (item : String) : Listed [item] item
  /-- Several. -/
  | several {items : List String} (last : String) :
      items ≠ [] → Listed (items ++ [last]) (", ".intercalate items ++ ", or " ++ last)

/-- **Alternatives are listed.** -/
theorem listed_alternatives (items : List String) : Listed items (alternatives items) := by
  induction items using alternatives.induct with
  | case1 => exact .none
  | case2 item => exact .one item
  | case3 item last =>
    have hpair : alternatives [item, last] = ", ".intercalate [item] ++ ", or " ++ last := by
      rw [alternatives, String.intercalate_singleton]
    rw [hpair]
    exact .several last (List.cons_ne_nil item [])
  | case4 item items hone htwo ih =>
    -- there are two more items at least, so the phrase of these is of several
    rw [alternatives.eq_4 item items hone htwo]
    generalize alternatives items = phrase at ih
    cases ih with
    | none => exact absurd rfl hone
    | one => exact absurd rfl (htwo _)
    | @several items last hne =>
      have hphrase : item ++ ", " ++ (", ".intercalate items ++ ", or " ++ last) =
          ", ".intercalate (item :: items) ++ ", or " ++ last := by
        rw [String.intercalate_cons_of_ne_nil hne]
        simp only [String.append_assoc]
      rw [hphrase, ← List.cons_append]
      exact .several last (List.cons_ne_nil item items)

/-! ## Folding keeps something -/

theorem expansionOf_mem {table : List (Nat × List Nat)} {n : Nat} {image : List Nat}
    (h : expansionOf table n = some image) : (n, image) ∈ table := by
  induction table with
  | nil => cases h
  | cons entry table ih =>
    obtain ⟨m, image'⟩ := entry
    rw [expansionOf] at h
    split at h
    · next hm =>
      cases h
      rw [beq_iff_eq.1 hm]
      exact List.mem_cons_self
    · exact List.mem_cons_of_mem _ (ih h)

/-- No character folds to nothing. -/
theorem foldChar_ne_nil (c : Char) : foldChar c ≠ [] := by
  have htable : ∀ entry ∈ foldExpansions, entry.2 ≠ [] := by decide
  rw [foldChar]
  split
  · next image hentry =>
    intro hnil
    exact htable _ (expansionOf_mem hentry) (List.map_eq_nil_iff.1 hnil)
  · split <;> exact List.cons_ne_nil _ _

/-- Only the empty name is equal to it up to letter case. -/
theorem eq_empty_of_sameFolded {name : String} (h : sameFolded name "" = true) : name = "" := by
  have hfold : fold name.toList = [] := beq_iff_eq.1 h
  refine String.toList_eq_nil_iff.1 (List.eq_nil_iff_forall_not_mem.2 fun c hc => ?_)
  exact foldChar_ne_nil c (List.flatMap_eq_nil_iff.1 hfold c hc)

end Text

namespace Grammar

variable {calls : List BuilderCall} {hub : Hub} {i oid : SlotId} {slot o : Slot}
variable {g children sub : Grammar} {owner : Owner} {d : String}
variable {before after : List (SlotId × Slot × Grammar)}

/-! ## The option that the default names -/

theorem siblings_eq (g : Grammar) : g.siblings = g.members.map (·.2.1) := by
  induction g with
  | nil => rfl
  | cons id slot children rest _ ih => rw [siblings, members, List.map_cons, ih]

/-- An option in quotes. -/
def quote (option : Slot) : String := "'" ++ option.name ++ "'"

theorem quotedOption_of_other (h : Text.sameFolded o.name d = false) :
    quotedOption d o = quote o := by
  simp [quotedOption, quote, h]

theorem quotedOption_of_named (hd : d ≠ "") (h : Text.sameFolded o.name d = true) :
    quotedOption d o = quote o ++ " (default)" := by
  have hcond : (decide (d ≠ "") && Text.sameFolded o.name d) = true := by
    rw [h, decide_eq_true hd]
    rfl
  have hmark : "' (default)" = "'" ++ " (default)" := rfl
  rw [quotedOption, if_pos hcond, quote, hmark, ← String.append_assoc]

/-- **Options of different names**: besides the one that a word names, none has its name. -/
theorem exists_only_named (hapart : g.siblings.Pairwise fun o p =>
    Text.sameFolded o.name p.name = false) (h : g.option? d = some (oid, o, sub)) :
    ∃ before after, g.members = before ++ (oid, o, sub) :: after ∧
      (∀ e ∈ before, Text.sameFolded e.2.1.name d = false) ∧
      ∀ e ∈ after, Text.sameFolded e.2.1.name d = false := by
  obtain ⟨⟨before, after, hsplit, hfirst⟩, hnamed⟩ := option?_eq_some_iff.1 h
  have hfold : Text.fold o.name.toList = Text.fold d.toList := beq_iff_eq.1 hnamed
  refine ⟨before, after, hsplit, fun e he => ?_, fun e he => ?_⟩
  · have hother := hfirst e he
    rwa [Text.sameFolded, hfold] at hother
  · rw [siblings_eq, hsplit, List.map_append, List.map_cons] at hapart
    obtain ⟨hlater, -⟩ := List.pairwise_cons.1 (List.pairwise_append.1 hapart).2.1
    have hother : Text.sameFolded o.name e.2.1.name = false := hlater _ (List.mem_map_of_mem he)
    rw [Text.sameFolded, Bool.beq_comm]
    rwa [Text.sameFolded, hfold] at hother

/-- **The phrase of an enum without a default** lists all options, none of them marked. -/
theorem listed_optionPhrase (h : slot.default = none) :
    Text.Listed (children.siblings.map quote) (optionPhrase slot children) := by
  have hfallback : slot.fallback = "" := by rw [Slot.fallback, h, Option.getD_none]
  rw [optionPhrase, hfallback]
  exact Text.listed_alternatives _

/-- **The phrase of an enum with a default** lists all options and marks the one that the
default names. -/
theorem listed_optionPhrase_default (hd : slot.default = some d) (hne : d ≠ "")
    (hmembers : children.members = before ++ (oid, o, sub) :: after)
    (hbefore : ∀ e ∈ before, Text.sameFolded e.2.1.name d = false)
    (hnamed : Text.sameFolded o.name d = true)
    (hafter : ∀ e ∈ after, Text.sameFolded e.2.1.name d = false) :
    Text.Listed (before.map (quote ·.2.1) ++ (quote o ++ " (default)") :: after.map (quote ·.2.1))
      (optionPhrase slot children) := by
  have hfallback : slot.fallback = d := by rw [Slot.fallback, hd, Option.getD_some]
  have hquoted : ∀ {es : List (SlotId × Slot × Grammar)},
      (∀ e ∈ es, Text.sameFolded e.2.1.name d = false) →
        es.map (quote ·.2.1) = (es.map (·.2.1)).map (quotedOption d) := by
    intro es hes
    rw [List.map_map]
    exact List.map_congr_left fun e he => (quotedOption_of_other (hes e he)).symm
  rw [optionPhrase, hfallback, siblings_eq, hmembers, List.map_append, List.map_append,
    List.map_cons, List.map_cons, quotedOption_of_named hne hnamed, ← hquoted hbefore,
    ← hquoted hafter]
  exact Text.listed_alternatives _

/-! ## Names of what is held -/

theorem siblings_subset_slots : g.siblings ⊆ g.slots := by
  induction g with
  | nil => exact List.Subset.refl _
  | cons id slot children rest _ ih =>
    exact List.cons_subset_cons slot fun o ho => List.mem_append_right _ (ih ho)

/-- Whatever values they hold by now, slots that were built have names. -/
theorem named_of_alike (hbuilt : Alike hub.slots (construct calls).hub.slots)
    (ho : o ∈ hub.slots) : o.name ≠ "" := by
  have hblank : o.blank ∈ hub.slots.map Slot.blank := List.mem_map_of_mem ho
  rw [show hub.slots.map Slot.blank = _ from hbuilt] at hblank
  obtain ⟨built, hmem, hsame⟩ := List.mem_map.1 hblank
  have hname : built.blank.name = o.blank.name := congrArg Slot.name hsame
  change built.name = o.name at hname
  rw [← hname]
  exact named_construct calls built hmem

end Grammar

open Grammar

section Offered

variable {calls : List BuilderCall} {hub : Hub} {i : SlotId} {slot : Slot} {children : Grammar}
variable {owner : Owner}

/-- **The option list in messages agrees with the matcher.** Take an enum of what was built
that passes validation, with options of different names up to letter case. Its options can
be listed, in quotes and in order. Without a default none is marked; with one exactly one
option is marked, the one whose name is the default up to letter case. Wherever a match
comes to the enum with a word that names no option, it binds the enum to the name of the
marked option and goes on from there with the word, so it does not fail for the enum. -/
theorem offered_default (hbuilt : Alike hub.slots (construct calls).hub.slots)
    (hheld : (cons i slot children nil).HeldIn hub.slots) (henum : slot.isEnum = true)
    (hvalid : (cons i slot children nil).check owner false = .ok ())
    (hapart : children.siblings.Pairwise fun o p => Text.sameFolded o.name p.name = false) :
    ∃ phrase, enumerateOptions slot children = .ok phrase ∧
      (slot.default = none → Text.Listed (children.siblings.map quote) phrase) ∧
      ∀ d, slot.default = some d → ∃ before oid o sub after,
        children.members = before ++ (oid, o, sub) :: after ∧
        Text.sameFolded o.name d = true ∧
        Text.Listed
          (before.map (quote ·.2.1) ++ (quote o ++ " (default)") :: after.map (quote ·.2.1))
          phrase ∧
        ∀ id command words fs path rest word later usage, hub.commands[id]? = some command →
          Comes [] (layOut hub.slots command.arguments) words fs path (cons i slot children rest)
            (word :: later) →
          children.option? word = none →
          HubM.matchWords id words usage hub = HubM.keepMatch command
            ((((walk usage (onward path rest (path ++ [slot.name] ++ [o.name]) sub).1
              (onward path rest (path ++ [slot.name] ++ [o.name]) sub).2 (word :: later)).after
                ⟨path ++ [slot.name], i, o.name⟩).noting (defaultRemark slot word)).behind fs)
            [] hub ∧
          ∀ failure,
            walk usage path (cons i slot children rest) (word :: later) ≠ .fail failure := by
  have hphrase : enumerateOptions slot children = .ok (optionPhrase slot children) := if_pos henum
  refine ⟨_, hphrase, listed_optionPhrase, fun d hd => ?_⟩
  have hsome : (children.option? d).isSome = true := (defaultsNamed_of_check hvalid).1 henum d hd
  obtain ⟨⟨oid, o, sub⟩, hopt⟩ := Option.isSome_iff_exists.1 hsome
  obtain ⟨hmem, hnamed⟩ := option?_mem hopt
  obtain ⟨before, after, hmembers, hbefore, hafter⟩ := exists_only_named hapart hopt
  -- the default is not empty, since it is the name of an option up to letter case
  have hne : d ≠ "" := by
    rintro rfl
    have hkept : o ∈ hub.slots := hheld.2.1.of_mem_slots (siblings_subset_slots hmem)
    have hname : o.name ≠ "" := named_of_alike hbuilt hkept
    exact hname (Text.eq_empty_of_sameFolded hnamed)
  have hfallback : slot.fallback = d := by rw [Slot.fallback, hd, Option.getD_some]
  have hstandIn : standIn? slot children = some (oid, o, sub) := by
    rw [standIn?, hfallback, if_neg hne, hopt]
  refine ⟨before, oid, o, sub, after, hmembers, hnamed,
    listed_optionPhrase_default hd hne hmembers hbefore hnamed hafter, ?_⟩
  intro id command words fs path rest word later usage hc hcomes hnone
  refine ⟨?_, fun failure hfail => ?_⟩
  · rw [HubM.matchWords_eq hc, hcomes.walk_eq, walk_defaulted henum hnone hstandIn]
  · -- a match that fails at the enum has not bound it
    rw [walk_defaulted henum hnone hstandIn] at hfail
    cases congrArg Outcome.bound hfail

end Offered

/-- An optional enum with the default `CLEAR`, which is the name of its second option but for
the letter case. -/
def clearCalls : List BuilderCall :=
  [.newSlot "mode" true, .newSlot "read" false, .newSlot "clear" false, .addOption 0 1,
   .addOption 0 2, .onSlot 0 (.setDefault "CLEAR"), .newCommand "Mail",
   .onCommand 0 (.addAlias "mail"), .addArgument 0 0]

/-- The enum. -/
def clearSlot : Slot where
  name := "mode"
  optional := true
  isEnum := true
  default := some "CLEAR"
  children := [1, 2]
  value := "CLEAR"

/-- Its options. -/
def clearOptions : Grammar :=
  cons 1 { name := "read" } nil (cons 2 { name := "clear" } nil nil)

/-- The second option is marked, and a match chooses it by default. -/
theorem clear_offered :
    Alike (construct clearCalls).hub.slots (construct clearCalls).hub.slots ∧
      (cons 0 clearSlot clearOptions nil).HeldIn (construct clearCalls).hub.slots ∧
      clearSlot.isEnum = true ∧
      (cons 0 clearSlot clearOptions nil).check (.command "Mail") false = .ok () ∧
      clearOptions.siblings.Pairwise (fun o p => Text.sameFolded o.name p.name = false) ∧
      enumerateOptions clearSlot clearOptions = .ok "'read', or 'clear' (default)" ∧
      HubM.matchWords 0 ["now"] "" (construct clearCalls).hub = HubM.keepMatch
        { name := "Mail", aliases := ["mail"], arguments := [0] }
        (((Outcome.stop ["now"]).after ⟨["mode"], 0, "clear"⟩).noting
          (defaultRemark clearSlot "now")) [] (construct clearCalls).hub := by
  have hheld : (cons 0 clearSlot clearOptions nil).HeldIn (construct clearCalls).hub.slots :=
    ⟨rfl, ⟨rfl, trivial, rfl, trivial, trivial⟩, trivial⟩
  have hvalid : (cons 0 clearSlot clearOptions nil).check (.command "Mail") false = .ok () := rfl
  have hapart : clearOptions.siblings.Pairwise
      (fun o p => Text.sameFolded o.name p.name = false) := by
    refine List.pairwise_pair.2 ?_
    decide
  obtain ⟨phrase, henumerate, -, hdefault⟩ := offered_default rfl hheld rfl hvalid hapart
  have hphrase : phrase = "'read', or 'clear' (default)" := by
    have hcomputed : optionPhrase clearSlot clearOptions = "'read', or 'clear' (default)" := by
      decide
    rw [← hcomputed]
    exact (Except.ok.inj henumerate).symm
  obtain ⟨before, oid, o, sub, after, hmembers, hnamed, -, hmatch⟩ := hdefault "CLEAR" rfl
  have hmem : (oid, o, sub) ∈ clearOptions.members := by
    rw [hmembers]
    exact List.mem_append_right _ List.mem_cons_self
  have hcomes : Comes [] (layOut (construct clearCalls).hub.slots [0]) ["now"] [] []
      (cons 0 clearSlot clearOptions nil) ["now"] := .here
  obtain ⟨hmatched, -⟩ := hmatch 0 { name := "Mail", aliases := ["mail"], arguments := [0] }
    ["now"] [] [] nil "now" [] "" rfl hcomes (by decide)
  refine ⟨rfl, hheld, rfl, hvalid, hapart, hphrase ▸ henumerate, ?_⟩
  rcases List.mem_cons.1 hmem with heq | hsecond
  · -- the name of the first option is another one
    cases heq
    exact absurd hnamed (by decide)
  · cases List.mem_singleton.1 hsecond
    exact hmatched

end Chatline
