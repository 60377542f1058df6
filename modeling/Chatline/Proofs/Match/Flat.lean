import Chatline.Proofs.Fault.Contents
import Chatline.Proofs.Grammar.Acyclic
import Chatline.Proofs.Match.Required
/-!
# Flat grammars

Most commands have root slots alone: some that must be filled and then some that may be
left out, none of which is an enum or owns slots. `flat_match` fixes what a match of such
a command gives for every number of slots against every number of words: each slot takes
one word, but the last one takes all that are left, and of the things that can be wrong a
word that is refused comes before a slot that is missing.
-/

namespace Chatline

namespace Slot

/-- That a slot refuses a text: it is not empty and does not satisfy the rule. -/
def Refuses (slot : Slot) (text : String) : Prop :=
  text ≠ "" ∧ slot.rule.accepts text = .ok false

/-- The value that a slot has of a text that it takes, if it takes any. -/
def taking (slot : Slot) : Option String → String
  | some text => if text = "" then slot.fallback else text
  | none => slot.fallback

variable {slot : Slot} {text : String}

theorem read_of_refuses (h : slot.Refuses text) :
    slot.read text = .error (.fault (slot.refusal text)) := by
  rw [read, if_neg h.1, h.2]

/-- **A plain slot** is no enum, and its rule does not fail. -/
structure Plain (slot : Slot) : Prop where
  /-- It takes any word that its rule accepts. -/
  word : slot.isEnum = false
  /-- The rule accepts a text or does not. -/
  rule : ∀ text, ∃ v, slot.rule.accepts text = .ok v

/-- A text that a plain slot does not refuse is read. -/
theorem Plain.read_of_not_refuses (hplain : slot.Plain) (h : ¬ slot.Refuses text) :
    slot.read text = .ok (slot.taking (some text)) := by
  rw [read, taking]
  split
  · rfl
  · next hne =>
    obtain ⟨v, hv⟩ := hplain.rule text
    cases v with
    | true => rw [hv]
    | false => exact absurd ⟨hne, hv⟩ h

end Slot

namespace Grammar

/-! ## What the slots take -/

/-- **The texts that slots take**, one each, of some words: the words themselves, but if
there are more words than slots the last slot takes all that are left, joined by spaces. -/
def portions (n : Nat) (words : List String) : List String :=
  if words.length > n then words.take (n - 1) ++ [" ".intercalate (words.drop (n - 1))] else words

variable {n : Nat} {word : String} {words later : List String}

@[simp] theorem portions_nil : portions n [] = [] := by
  simp [portions]

theorem portions_one (word : String) (later : List String) :
    portions 1 (word :: later) = [" ".intercalate (word :: later)] := by
  cases later <;> rfl

theorem portions_cons (n : Nat) (word : String) (later : List String) :
    portions (n + 2) (word :: later) = word :: portions (n + 1) later := by
  rw [portions, portions, List.length_cons]
  by_cases h : later.length > n + 1
  · rw [if_pos h, if_pos (by omega)]
    rfl
  · rw [if_neg h, if_neg (by omega)]

theorem length_portions (n : Nat) (words : List String) :
    (portions (n + 1) words).length = min words.length (n + 1) := by
  rw [portions]
  split
  · simp only [List.length_append, List.length_take, List.length_singleton]
    omega
  · omega

/-! ## Matching a flat grammar -/

/-- The grammar of some slots that own nothing. -/
def flat : List (SlotId × Slot) → Grammar
  | [] => nil
  | (id, slot) :: entries => cons id slot nil (flat entries)

/-- What a match gives the slots of a flat grammar that take some texts: one slot more than
there are texts is given its fallback, if there is one. -/
def given (path : Path) (entries : List (SlotId × Slot)) (texts : List String) : List Binding :=
  List.zipWith (fun (id, slot) text => ⟨path ++ [slot.name], id, slot.taking text⟩) entries
    (texts.map some ++ [none])

variable {usage : String} {path : Path} {entries : List (SlotId × Slot)} {e : SlotId × Slot}
variable {id : SlotId} {slot : Slot} {text : String} {i : Nat}

/-- Without texts the first slot alone is given its fallback. -/
theorem given_nil : given path (e :: entries) [] = [⟨path ++ [e.2.name], e.1, e.2.fallback⟩] := by
  rw [given, List.map_nil, List.nil_append, List.zipWith_cons_cons, List.zipWith_nil_right]
  rfl

/-- The words that are left when the first slot of a flat grammar has taken its own. -/
def leftFor (entries : List (SlotId × Slot)) (later : List String) : List String :=
  if entries.isEmpty then [] else later

/-- **One slot of a flat grammar** takes one text, and the later slots take the others. -/
theorem walk_flat_cons (usage : String) (path : Path) (entries : List (SlotId × Slot))
    (henum : e.2.isEnum = false) (word : String) (later : List String) :
    ∃ text, portions (entries.length + 1) (word :: later) =
        text :: portions entries.length (leftFor entries later) ∧
      walk usage path (flat (e :: entries)) (word :: later) =
        match e.2.read text with
        | .error failure => .fail failure
        | .ok value =>
          (walk usage path (flat entries) (leftFor entries later)).after
            ⟨path ++ [e.2.name], e.1, value⟩ := by
  cases entries with
  | nil =>
    refine ⟨" ".intercalate (word :: later), ?_, walk_swept henum⟩
    rw [leftFor, List.isEmpty_nil, if_pos rfl, portions_nil]
    exact portions_one word later
  | cons e entries => exact ⟨word, portions_cons _ _ _, walk_taken henum rfl⟩

/-- That no slot refuses the text that it takes. -/
def NoneRefused (entries : List (SlotId × Slot)) (texts : List String) : Prop :=
  ∀ (i : Nat) (e : SlotId × Slot) (text : String),
    entries[i]? = some e → texts[i]? = some text → ¬ e.2.Refuses text

theorem NoneRefused.of_cons {texts : List String}
    (h : NoneRefused (e :: entries) (text :: texts)) :
    ¬ e.2.Refuses text ∧ NoneRefused entries texts :=
  ⟨h 0 e text rfl rfl, fun i e x he hx => h (i + 1) e x he hx⟩

/-- Of the texts that are refused the first is reported. -/
theorem walk_flat_refused (hplain : ∀ e ∈ entries, e.2.Plain) (hslot : entries[i]? = some (id, slot))
    (htext : (portions entries.length words)[i]? = some text) (hrefuses : slot.Refuses text)
    (hearlier : NoneRefused (entries.take i) (portions entries.length words)) :
    (walk usage path (flat entries) words).result = .error (.fault (slot.refusal text)) := by
  induction entries generalizing words i with
  | nil => cases hslot
  | cons e entries ih =>
    obtain _ | ⟨word, later⟩ := words
    · rw [portions_nil] at htext
      cases htext
    obtain ⟨hfirst, hplain⟩ := List.forall_mem_cons.1 hplain
    obtain ⟨x, hportions, hwalk⟩ := walk_flat_cons usage path entries hfirst.word word later
    rw [hwalk]
    rw [List.length_cons, hportions] at htext hearlier
    cases i with
    | zero =>
      cases hslot
      cases htext
      rw [Slot.read_of_refuses hrefuses]
      rfl
    | succ i =>
      rw [List.take_succ_cons] at hearlier
      obtain ⟨hread, hearlier⟩ := hearlier.of_cons
      rw [hfirst.read_of_not_refuses hread, after_result]
      exact ih hplain hslot htext hearlier

/-- If no text is refused the first slot for which no word is left is missing, if it must be
filled. -/
theorem walk_flat_missing (hplain : ∀ e ∈ entries, e.2.Plain)
    (hslot : entries[words.length]? = some (id, slot)) (hrequired : slot.optional = false)
    (hnone : NoneRefused entries (portions entries.length words)) :
    (walk usage path (flat entries) words).result = .error (.fault (missing usage slot nil)) := by
  induction entries generalizing words with
  | nil => cases hslot
  | cons e entries ih =>
    obtain _ | ⟨word, later⟩ := words
    · cases hslot
      rw [flat, walk_missing hrequired]
      rfl
    obtain ⟨hfirst, hplain⟩ := List.forall_mem_cons.1 hplain
    obtain ⟨x, hportions, hwalk⟩ := walk_flat_cons usage path entries hfirst.word word later
    rw [List.length_cons, hportions] at hnone
    obtain ⟨hread, hnone⟩ := hnone.of_cons
    have hleft : leftFor entries later = later := by
      cases entries with
      | nil => cases hslot
      | cons e entries => rfl
    rw [hwalk, hfirst.read_of_not_refuses hread, after_result, hleft]
    rw [hleft] at hnone
    exact ih hplain hslot hnone

/-- If no text is refused and the first slot for which no word is left may be left out, the
match succeeds. -/
theorem walk_flat_filled (hplain : ∀ e ∈ entries, e.2.Plain)
    (hoptional : ∀ e, entries[words.length]? = some e → e.2.optional = true)
    (hnone : NoneRefused entries (portions entries.length words))
    (hnil : entries = [] → words = []) :
    walk usage path (flat entries) words =
      { bound := given path entries (portions entries.length words), result := .ok [] } := by
  induction entries generalizing words with
  | nil =>
    rw [hnil rfl]
    rfl
  | cons e entries ih =>
    obtain _ | ⟨word, later⟩ := words
    · rw [flat, walk_lapsed (hoptional e rfl), portions_nil, given_nil]
      rfl
    obtain ⟨hfirst, hplain⟩ := List.forall_mem_cons.1 hplain
    obtain ⟨x, hportions, hwalk⟩ := walk_flat_cons usage path entries hfirst.word word later
    rw [List.length_cons, hportions] at hnone ⊢
    obtain ⟨hread, hnone⟩ := hnone.of_cons
    have hrest := @ih (leftFor entries later) hplain ?_ hnone ?_
    · rw [hwalk, hfirst.read_of_not_refuses hread, hrest]
      rfl
    · intro e he
      cases entries with
      | nil => cases he
      | cons first entries => exact hoptional e he
    · rintro rfl
      rfl

/-! ## What a flat grammar is given -/

variable {texts : List String}

theorem given_cons : given path (e :: entries) (text :: texts) =
    ⟨path ++ [e.2.name], e.1, e.2.taking (some text)⟩ :: given path entries texts := rfl

/-- The slots that are given values are the first ones. -/
theorem given_map_slot (path : Path) (entries : List (SlotId × Slot)) (texts : List String) :
    (given path entries texts).map Binding.slot =
      (entries.map Prod.fst).take (texts.length + 1) := by
  induction entries generalizing texts with
  | nil => rfl
  | cons e entries ih =>
    cases texts with
    | nil => rw [given_nil]; rfl
    | cons text texts => rw [given_cons, List.map_cons, ih]; rfl

theorem given_getElem? (hslot : entries[i]? = some e) (hi : i ≤ texts.length) :
    (given path entries texts)[i]? =
      some ⟨path ++ [e.2.name], e.1, e.2.taking texts[i]?⟩ := by
  induction entries generalizing texts i with
  | nil => cases hslot
  | cons first entries ih =>
    cases i with
    | zero =>
      cases hslot
      cases texts with
      | nil => rw [given_nil]; rfl
      | cons text texts => rfl
    | succ i =>
      cases texts with
      | nil => cases hi
      | cons text texts => exact ih hslot (Nat.le_of_succ_le_succ hi)

/-- The values by path. -/
theorem given_map_entry (entries : List (SlotId × Slot)) (texts : List String) :
    (given [] entries texts).map (fun b => (b.path, b.value)) =
      List.zipWith (fun slot text => ([slot.name], slot.taking text)) (entries.map Prod.snd)
        (texts.map some ++ [none]) := by
  rw [given, List.map_zipWith, List.zipWith_map_left]
  rfl

/-! ## Flat commands -/

/-- **A flat grammar**: different slots that are plain and own nothing, of which the first
`r` must be filled and the others may be left out. -/
structure Flat (store : List Slot) (arguments : List SlotId) (slots : List Slot) (r : Nat) :
    Prop where
  /-- The store holds the slots. -/
  stored : arguments.map (store[·]?) = slots.map some
  /-- They are different. -/
  distinct : arguments.Nodup
  /-- There is one at least. -/
  nonempty : slots ≠ []
  /-- They are plain. -/
  plain : ∀ slot ∈ slots, slot.Plain
  /-- They own nothing. -/
  childless : ∀ slot ∈ slots, slot.children = []
  /-- There are as many as must be filled. -/
  enough : r ≤ slots.length
  /-- The first ones must be filled. -/
  required : ∀ (i : Nat) slot, slots[i]? = some slot → (slot.optional = false ↔ i < r)

variable {store slots : List Slot} {arguments : List SlotId} {r : Nat}

/-- Slots that own nothing are laid out flat. -/
theorem unfold_flat (depth : Nat) (hstored : arguments.map (store[·]?) = slots.map some)
    (hchildless : ∀ slot ∈ slots, slot.children = []) :
    unfold store (depth + 1) arguments = flat (arguments.zip slots) := by
  induction arguments generalizing slots with
  | nil => rfl
  | cons i arguments ih =>
    obtain _ | ⟨slot, slots⟩ := slots
    · cases hstored
    obtain ⟨hslot, hstored⟩ := List.cons.inj hstored
    obtain ⟨hfirst, hchildless⟩ := List.forall_mem_cons.1 hchildless
    have hnothing : unfold store depth slot.children = nil := by
      rw [hfirst]
      cases depth <;> rfl
    rw [unfold_cons_of_some hslot, hnothing, ih hstored hchildless]
    rfl

theorem layOut_flat (hstored : arguments.map (store[·]?) = slots.map some)
    (hchildless : ∀ slot ∈ slots, slot.children = []) :
    layOut store arguments = flat (arguments.zip slots) := by
  rw [layOut]
  cases store with
  | nil =>
    -- no slot is there, so there is none
    obtain _ | ⟨i, arguments⟩ := arguments
    · rfl
    · obtain _ | ⟨slot, slots⟩ := slots
      · cases hstored
      · cases (List.cons.inj hstored).1
  | cons first store => exact unfold_flat _ hstored hchildless

theorem Flat.layOut_eq (h : Flat store arguments slots r) :
    layOut store arguments = flat (arguments.zip slots) :=
  layOut_flat h.stored h.childless

theorem Flat.length_eq (h : Flat store arguments slots r) : arguments.length = slots.length := by
  have hlength := congrArg List.length h.stored
  rwa [List.length_map, List.length_map] at hlength

theorem Flat.getElem? (h : Flat store arguments slots r) (hid : arguments[i]? = some id)
    (hslot : slots[i]? = some slot) : store[id]? = some slot := by
  have hat := congrArg (·[i]?) h.stored
  simp only [List.getElem?_map, hid, hslot, Option.map_some] at hat
  exact Option.some.inj hat

theorem ids_flat (entries : List (SlotId × Slot)) : (flat entries).ids = entries.map Prod.fst := by
  induction entries with
  | nil => rfl
  | cons e entries ih => rw [flat, ids, ih]; rfl

end Grammar

namespace HubM

open Grammar

variable {hub hub' : Hub} {id : CommandId} {command : Command} {words : List String}
variable {usage : String} {b : Bindings} {slots : List Slot} {r : Nat} {failure : Failure}

/-- A walk that fails is how the match ends. -/
theorem ended_of_walk_error (hc : hub.commands[id]? = some command)
    (h : (walk usage [] (layOut hub.slots command.arguments) words).result = .error failure) :
    (matchWords id words usage).ended hub = .error failure := by
  obtain ⟨hub', hfails⟩ := keepMatch_of_error command h hub
  rw [ended, matchWords_eq hc, hfails]

/-- **What a match of a flat grammar gives** when it succeeds. -/
structure FlatBound (hub : Hub) (arguments : List SlotId) (slots : List Slot)
    (words : List String) (b : Bindings) (hub' : Hub) : Prop where
  /-- One slot is bound for each word, and one more if there is one. -/
  bound : b.arguments = arguments.take (words.length + 1)
  /-- Each is bound to what it takes, or to its fallback. -/
  values : b.values = Ledger.putAll []
    (List.zipWith (fun slot text => ([slot.name], slot.taking text)) slots
      ((portions slots.length words).map some ++ [none]))
  /-- That is what it holds. -/
  held : ∀ (i : Nat) (sid : SlotId) (slot : Slot), i ≤ words.length →
    arguments[i]? = some sid → slots[i]? = some slot →
    Bindings.current hub'.slots sid = slot.taking (portions slots.length words)[i]?
  /-- No other slot is written. -/
  others : ∀ sid ∉ arguments.take (words.length + 1), hub'.slots[sid]? = hub.slots[sid]?
  /-- Nothing is logged: no word is left over, and no default stands in for one. -/
  events : hub'.events = hub.events

/-- A match whose walk gives all slots what they take. -/
theorem flatBound_of_walk (hc : hub.commands[id]? = some command)
    (hflat : Flat hub.slots command.arguments slots r)
    (hwalk : walk usage [] (layOut hub.slots command.arguments) words =
      { bound := given [] (command.arguments.zip slots) (portions slots.length words),
        result := .ok [] }) :
    ∃ b hub', matchWords id words usage hub = .ok b hub' ∧
      FlatBound hub command.arguments slots words b hub' := by
  have hlength := hflat.length_eq
  have hfst : (command.arguments.zip slots).map Prod.fst = command.arguments :=
    List.map_fst_zip (by omega)
  have hsnd : (command.arguments.zip slots).map Prod.snd = slots := List.map_snd_zip (by omega)
  have hids : (layOut hub.slots command.arguments).ids = command.arguments := by
    rw [hflat.layOut_eq, ids_flat, hfst]
  have htexts : (portions slots.length words).length = min words.length slots.length := by
    obtain ⟨k, hk⟩ : ∃ k, slots.length = k + 1 :=
      Nat.exists_eq_succ_of_ne_zero (List.length_eq_zero_iff.not.2 hflat.nonempty)
    rw [hk, length_portions]
  obtain ⟨left, hresult⟩ : ∃ left,
      (walk usage [] (layOut hub.slots command.arguments) words).result = .ok left :=
    ⟨[], by rw [hwalk]⟩
  obtain ⟨fs, halt, htrail, -⟩ := exists_trail hresult
  have houtcome := (walk_eq_of_trail htrail).symm.trans hwalk
  have hbound : boundBy fs =
      given [] (command.arguments.zip slots) (portions slots.length words) :=
    congrArg Outcome.bound houtcome
  have hremarks : fs.filterMap Filling.remark? = [] := congrArg Outcome.remarks houtcome
  have hleft : halt.left = [] := Except.ok.inj (congrArg Outcome.result houtcome)
  have hslots : (boundBy fs).map Binding.slot = command.arguments.take (words.length + 1) := by
    rw [hbound, given_map_slot, hfst, htexts, List.take_eq_take_iff]
    omega
  have hnodup : ((boundBy fs).map Binding.slot).Nodup := by
    rw [hslots]
    exact hflat.distinct.sublist (List.take_sublist _ _)
  refine ⟨_, _, matchWords_of_trail hc htrail, ?_, ?_, ?_, ?_, ?_⟩
  · rw [Hub.snapshotOf_arguments, ← boundBy_map_slot, hslots]
  · rw [Hub.snapshotOf_values_of_nodup htrail (by rw [hids]; exact hflat.distinct), hbound,
      Ledger.putAll, ← hsnd, ← given_map_entry, List.foldl_map, hsnd]
  · intro i sid slot hi hsid hslot
    have he : (command.arguments.zip slots)[i]? = some (sid, slot) :=
      List.getElem?_zip_eq_some.2 ⟨hsid, hslot⟩
    have hn := (List.getElem?_eq_some_iff.1 hslot).1
    have hgiven : (given [] (command.arguments.zip slots) (portions slots.length words))[i]? =
        some ⟨[slot.name], sid, slot.taking (portions slots.length words)[i]?⟩ :=
      given_getElem? he (by omega)
    rw [← hbound] at hgiven
    have hmem := List.mem_of_getElem? hgiven
    have hstored := hflat.getElem? hsid hslot
    exact current_written_of_nodup hnodup hmem (List.getElem?_eq_some_iff.1 hstored).1
  · intro sid hsid
    rw [← hslots] at hsid
    exact written_getElem?_of_notMem hsid
  · rw [Hub.kept_events, recordsOf, hremarks, hleft, Command.leftRecord, if_pos rfl, List.map_nil,
      List.append_nil, List.append_nil]

/-- **Matching a flat grammar**, whatever the numbers `n` of slots and `m` of words. Each slot
takes a word, but where there are more words than slots the last slot takes all that are
left. If a slot refuses the text that it takes the match fails with an invalid argument,
and the fault names the first such slot, the text and the rule. If none does but `m` is less
than the number `r` of slots that must be filled, the match fails with a missing argument,
and the fault names the slot after those that took a word. Otherwise the match succeeds: the
slots that took a word are bound to it, or to their fallback if it is empty, one more slot is
bound to its fallback if there is one, and nothing else happens. -/
theorem flat_match (hc : hub.commands[id]? = some command)
    (hflat : Flat hub.slots command.arguments slots r) (words : List String) (usage : String) :
    (∀ (i : Nat) slot text, slots[i]? = some slot →
      (portions slots.length words)[i]? = some text → slot.Refuses text →
      (∀ j < i, ∀ s x, slots[j]? = some s → (portions slots.length words)[j]? = some x →
        ¬ s.Refuses x) →
      (matchWords id words usage).ended hub = .error (.fault (slot.refusal text)) ∧
        (slot.refusal text).Tells (.coded .invalidArgument)
          ("Argument '" ++ slot.name ++ "' is invalid. Must be a valid " ++
            slot.rule.errorLabel ++ ".")
          [("argument", .named slot.name), ("input", .text text),
            ("rule", .rule slot.rule.label)]) ∧
    ((∀ (i : Nat) slot text, slots[i]? = some slot →
        (portions slots.length words)[i]? = some text → ¬ slot.Refuses text) →
      (words.length < r → ∃ slot, slots[words.length]? = some slot ∧
        (matchWords id words usage).ended hub = .error (.fault (missing usage slot nil)) ∧
        (missing usage slot nil).Tells (.coded .missingArgument)
          ("Invalid arguments, " ++ ("'" ++ slot.name ++ "'") ++ " required. Usage: " ++ usage)
          [("argument", .named slot.name), ("usage", .text usage)]) ∧
      (r ≤ words.length → ∃ b hub', matchWords id words usage hub = .ok b hub' ∧
        FlatBound hub command.arguments slots words b hub')) := by
  have hlength := hflat.length_eq
  have hentries : (command.arguments.zip slots).length = slots.length := by
    rw [List.length_zip]
    omega
  have hplain : ∀ e ∈ command.arguments.zip slots, e.2.Plain :=
    fun e he => hflat.plain e.2 (List.of_mem_zip he).2
  have hentry : ∀ (i : Nat) slot, slots[i]? = some slot →
      ∃ sid, (command.arguments.zip slots)[i]? = some (sid, slot) := by
    intro i slot hslot
    have hi := (List.getElem?_eq_some_iff.1 hslot).1
    exact ⟨command.arguments[i],
      List.getElem?_zip_eq_some.2 ⟨List.getElem?_eq_getElem (by omega), hslot⟩⟩
  constructor
  · intro i slot text hslot htext hrefuses hearlier
    obtain ⟨sid, he⟩ := hentry i slot hslot
    refine ⟨ended_of_walk_error hc ?_, Slot.tells_refusal⟩
    rw [hflat.layOut_eq]
    refine walk_flat_refused hplain he (by rwa [hentries]) hrefuses fun j e x hj hx => ?_
    rw [hentries] at hx
    have hlt : j < i := by
      have := (List.getElem?_eq_some_iff.1 hj).1
      rw [List.length_take] at this
      omega
    rw [List.getElem?_take_of_lt hlt] at hj
    exact hearlier j hlt e.2 x (List.getElem?_zip_eq_some.1 hj).2 hx
  · intro hnone
    have hnone : NoneRefused (command.arguments.zip slots)
        (portions (command.arguments.zip slots).length words) := by
      rw [hentries]
      exact fun j e x hj hx => hnone j e.2 x (List.getElem?_zip_eq_some.1 hj).2 hx
    constructor
    · intro hfew
      have hn := hflat.enough
      have hslot := List.getElem?_eq_getElem (l := slots) (i := words.length) (by omega)
      obtain ⟨sid, he⟩ := hentry _ _ hslot
      have hword := (hflat.plain _ (List.mem_of_getElem? hslot)).word
      refine ⟨_, hslot, ended_of_walk_error hc ?_, tells_missing hword⟩
      rw [hflat.layOut_eq]
      exact walk_flat_missing hplain he ((hflat.required _ _ hslot).2 hfew) hnone
    · intro hmany
      refine flatBound_of_walk hc hflat ?_
      rw [hflat.layOut_eq, ← hentries]
      refine walk_flat_filled hplain (fun e he => ?_) hnone fun hnil => ?_
      · have hrequired := hflat.required _ _ (List.getElem?_zip_eq_some.1 he).2
        by_contra hne
        rw [Bool.not_eq_true] at hne
        have hlt := hrequired.1 hne
        omega
      · rw [hnil] at hentries
        exact absurd (List.length_eq_zero_iff.1 hentries.symm) hflat.nonempty

end HubM

open HubM Grammar

/-- The slots of a command that gives a user some of an item. -/
def giveSlots : List Slot :=
  [{ name := "user" }, { name := "item" },
   { name := "amount", optional := true, default := some "1", rule := Rule.integer, value := "1" }]

/-- A hub with that command. -/
def Hub.give : Hub where
  slots := giveSlots
  commands := [{ name := "Give", aliases := ["give"], arguments := [0, 1, 2] }]

theorem give_flat : Flat Hub.give.slots [0, 1, 2] giveSlots 2 where
  stored := rfl
  distinct := by decide
  nonempty := List.cons_ne_nil _ _
  plain := by
    refine List.forall_mem_cons.2 ⟨⟨rfl, fun _ => ⟨_, rfl⟩⟩, ?_⟩
    refine List.forall_mem_cons.2 ⟨⟨rfl, fun _ => ⟨_, rfl⟩⟩, ?_⟩
    exact List.forall_mem_singleton.2 ⟨rfl, fun _ => ⟨_, rfl⟩⟩
  childless := by simp [giveSlots]
  enough := by decide
  required := by
    intro i slot hslot
    match i, hslot with
    | 0, hslot => cases hslot; simp
    | 1, hslot => cases hslot; simp
    | 2, hslot => cases hslot; simp

/-- Without an item that one is missing, an amount that is no number is refused, and without
an amount it is one. -/
theorem give_matches :
    (∃ fault, (matchWords 0 ["bob"] "").ended Hub.give = .error (.fault fault) ∧
      fault.Tells (.coded .missingArgument) "Invalid arguments, 'item' required. Usage: "
        [("argument", .named "item"), ("usage", .text "")]) ∧
    (∃ fault, (matchWords 0 ["bob", "gold", "five"] "").ended Hub.give = .error (.fault fault) ∧
      fault.Tells (.coded .invalidArgument)
        "Argument 'amount' is invalid. Must be a valid number."
        [("argument", .named "amount"), ("input", .text "five"), ("rule", .rule "Number")]) ∧
    ∃ b hub', matchWords 0 ["bob", "gold"] "" Hub.give = .ok b hub' ∧
      FlatBound Hub.give [0, 1, 2] giveSlots ["bob", "gold"] b hub' := by
  have hcommand : Hub.give.commands[0]? =
      some { name := "Give", aliases := ["give"], arguments := [0, 1, 2] } := rfl
  have hfirst : ∀ i < 2, ∀ slot text, giveSlots[i]? = some slot → ¬ slot.Refuses text := by
    rintro i hi slot text hslot ⟨-, hfalse⟩
    match i, hi with
    | 0, _ => cases hslot; cases hfalse
    | 1, _ => cases hslot; cases hfalse
  have hnone : ∀ words : List String, words.length ≤ 2 → ∀ (i : Nat) slot text,
      giveSlots[i]? = some slot → (portions giveSlots.length words)[i]? = some text →
      ¬ slot.Refuses text := by
    intro words hwords i slot text hslot htext
    have hi := (List.getElem?_eq_some_iff.1 htext).1
    have hlength : (portions giveSlots.length words).length = min words.length 3 :=
      length_portions 2 words
    exact hfirst i (by omega) slot text hslot
  refine ⟨?_, ?_, ?_⟩
  · obtain ⟨slot, hslot, hended, htells⟩ :=
      ((flat_match hcommand give_flat ["bob"] "").2 (hnone _ (by decide))).1 (by decide)
    cases hslot
    exact ⟨_, hended, htells⟩
  · obtain ⟨hended, htells⟩ := (flat_match hcommand give_flat ["bob", "gold", "five"] "").1 2 _ _
      rfl rfl ⟨by decide, rfl⟩ fun j hj s x hs _ => hfirst j hj s x hs
    exact ⟨_, hended, htells⟩
  · exact ((flat_match hcommand give_flat ["bob", "gold"] "").2 (hnone _ (by decide))).2 (by decide)

end Chatline
