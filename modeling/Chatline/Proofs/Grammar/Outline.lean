import Chatline.Grammar.Usage
import Chatline.Proofs.Text.Lowering
import Chatline.Proofs.Text.Runs
/-!
# What a usage line shows

A usage line is words and brackets. `Outline.Reads` says how any text is read as words and
pairs of brackets around them, and there is at most one reading of a text
(`Outline.Reads.unique`). The reading of a usage line is the outline of the grammar, in
which each slot of a sibling list is a pair with all it owns inside (`reads_fragments`); so
`usage_shows` says which words stand in the line and what each pair goes around.
-/

namespace Chatline

/-- A character that has a meaning of its own in usage lines. -/
def isMark (c : Char) : Bool := "<>[]| ".toList.contains c

/-- **A legible slot** has a name, as every slot that was built has, and no mark in it. -/
def Slot.Legible (slot : Slot) : Prop :=
  slot.name ≠ "" ∧ ∀ c ∈ slot.name.toList, isMark c = false

instance : DecidablePred Slot.Legible := fun slot =>
  decidable_of_iff (slot.name ≠ "" ∧ slot.name.toList.all (!isMark ·) = true)
    (by simp [Slot.Legible])

/-- **What a text shows**: words, and pairs of brackets with what stands in them. -/
inductive Outline where
  /-- Nothing more. -/
  | nil
  /-- A word. -/
  | word (text : List Char) (rest : Outline)
  /-- A pair of brackets, square or not. -/
  | pair (square : Bool) (inside rest : Outline)

namespace Outline

/-- The outline with another one after it. -/
def append : Outline → Outline → Outline
  | nil, o => o
  | word text rest, o => word text (rest.append o)
  | pair square inside rest, o => pair square inside (rest.append o)

/-- The words, in order. -/
def words : Outline → List (List Char)
  | nil => []
  | word text rest => text :: rest.words
  | pair _ inside rest => inside.words ++ rest.words

/-- The pairs of brackets, each before those inside it: whether it is square, and the words
that it goes around. -/
def pairs : Outline → List (Bool × List (List Char))
  | nil => []
  | word _ rest => rest.pairs
  | pair square inside rest => (square, inside.words) :: (inside.pairs ++ rest.pairs)

@[simp] theorem words_append (o p : Outline) : (o.append p).words = o.words ++ p.words := by
  induction o with
  | nil => rfl
  | word text rest ih => rw [append, words, words, ih, List.cons_append]
  | pair square inside rest _ ih => rw [append, words, words, ih, List.append_assoc]

@[simp] theorem pairs_append (o p : Outline) : (o.append p).pairs = o.pairs ++ p.pairs := by
  induction o with
  | nil => rfl
  | word text rest ih => rw [append, pairs, pairs, ih]
  | pair square inside rest _ ih =>
    rw [append, pairs, pairs, ih, List.cons_append, List.append_assoc]

/-- The bracket that opens a pair. -/
def opening (square : Bool) : Char := if square then '[' else '<'

/-- The bracket that closes a pair. -/
def closing (square : Bool) : Char := if square then ']' else '>'

/-- **How a text is read**: words stand between marks, and each bracket that is opened is
closed by one of its kind, around a text that is read in turn. -/
inductive Reads : List Char → Outline → Prop
  /-- The end. -/
  | nil : Reads [] nil
  /-- A space or a bar shows nothing. -/
  | gap {c : Char} {cs : List Char} {o : Outline} : c = ' ' ∨ c = '|' → Reads cs o →
      Reads (c :: cs) o
  /-- A word goes on up to a mark or the end. -/
  | word {w cs : List Char} {o : Outline} : w ≠ [] → (∀ c ∈ w, isMark c = false) →
      (∀ c ∈ cs.head?, isMark c = true) → Reads cs o → Reads (w ++ cs) (word w o)
  /-- A pair of brackets. -/
  | pair (square : Bool) {cs ds : List Char} {o p : Outline} : Reads cs o → Reads ds p →
      Reads (opening square :: (cs ++ closing square :: ds)) (pair square o p)

variable {cs ds xs ys w : List Char} {o p : Outline} {c : Char} {square : Bool}

/-! ## There is one reading -/

/-- What a text begins with. -/
inductive Lead where
  | stop | gap | word | pair (square : Bool)

/-- What a text begins with; at a closing bracket it stops. -/
def lead : List Char → Lead
  | [] => .stop
  | c :: _ =>
    if c = '[' then .pair true else if c = '<' then .pair false
    else if c = ' ' ∨ c = '|' then .gap else if isMark c then .stop else .word

theorem lead_gap (hc : c = ' ' ∨ c = '|') : lead (c :: cs) = .gap := by
  rcases hc with rfl | rfl <;> rfl

theorem lead_pair : lead (opening square :: cs) = .pair square := by
  cases square <;> rfl

theorem lead_closing : lead (closing square :: cs) = .stop := by
  cases square <;> rfl

theorem lead_word (hne : w ≠ []) (hw : ∀ c ∈ w, isMark c = false) : lead (w ++ cs) = .word := by
  obtain ⟨c, w, rfl⟩ := List.exists_cons_of_ne_nil hne
  have hc : isMark c = false := hw c List.mem_cons_self
  have hmarks : isMark '[' = true ∧ isMark '<' = true ∧ isMark ' ' = true ∧ isMark '|' = true := by
    decide
  have hplain : ¬ (c = '[' ∨ c = '<' ∨ c = ' ' ∨ c = '|') := by
    rintro (rfl | rfl | rfl | rfl) <;> simp [hmarks] at hc
  rw [not_or, not_or] at hplain
  simp [lead, hplain, hc]

/-- A mark or the end comes where a text is read no further. -/
theorem isMark_of_lead (h : lead cs ≠ .word) : ∀ c ∈ cs.head?, isMark c = true := by
  intro c hc
  cases cs with
  | nil => cases hc
  | cons d cs =>
    cases hc
    by_contra hmark
    rw [Bool.not_eq_true] at hmark
    refine h (lead_word (w := [c]) (by simp) ?_)
    simpa using hmark

theorem isMark_of_mem_head? (hstop : ∀ c ∈ cs.head?, isMark c = true) (hx : lead xs ≠ .word) :
    ∀ c ∈ (cs ++ xs).head?, isMark c = true := by
  cases cs with
  | nil => exact isMark_of_lead hx
  | cons c cs => simpa using hstop

/-- Words that are followed by a mark or the end are determined. -/
theorem word_unique {v : List Char} (hw : ∀ c ∈ w, isMark c = false)
    (hv : ∀ c ∈ v, isMark c = false) (hcs : ∀ c ∈ cs.head?, isMark c = true)
    (hds : ∀ c ∈ ds.head?, isMark c = true) (heq : w ++ cs = v ++ ds) : w = v ∧ cs = ds := by
  have htaken := congrArg (List.takeWhile (!isMark ·)) heq
  rw [Text.takeWhile_append_eq (by simpa using hw) (by simpa using hcs),
    Text.takeWhile_append_eq (by simpa using hv) (by simpa using hds)] at htaken
  subst htaken
  exact ⟨rfl, List.append_cancel_left heq⟩

/-- **A reading ends where it must**: if two texts are read, and what comes after each is
nothing or a closing bracket, then they are the same text and read in the same way. -/
theorem Reads.unique_append (h : Reads cs o) (h' : Reads ds p) (hx : lead xs = .stop)
    (hy : lead ys = .stop) (heq : cs ++ xs = ds ++ ys) : cs = ds ∧ o = p := by
  induction h generalizing ds p xs ys with
  | nil =>
    have hlead := congrArg lead heq
    rw [List.nil_append, hx] at hlead
    cases h' with
    | nil => exact ⟨rfl, rfl⟩
    | gap hc _ => simp [lead_gap hc] at hlead
    | word hne hw _ _ => simp [lead_word hne hw] at hlead
    | pair square _ _ => simp [lead_pair] at hlead
  | gap hc _ ih =>
    have hlead := congrArg lead heq
    rw [List.cons_append, lead_gap hc] at hlead
    cases h' with
    | nil => simp [hy] at hlead
    | gap hd h' =>
      obtain ⟨rfl, hrest⟩ := List.cons.inj heq
      obtain ⟨rfl, rfl⟩ := ih h' hx hy hrest
      exact ⟨rfl, rfl⟩
    | word hne hw _ _ => simp [lead_word hne hw] at hlead
    | pair square _ _ => simp [lead_pair] at hlead
  | @word w cs o hne hw hstop _ ih =>
    have hlead := congrArg lead heq
    rw [List.append_assoc, lead_word hne hw] at hlead
    cases h' with
    | nil => simp [hy] at hlead
    | gap hd _ => simp [lead_gap hd] at hlead
    | @word v ds p hne' hv hstop' h' =>
      rw [List.append_assoc, List.append_assoc] at heq
      obtain ⟨rfl, hrest⟩ := word_unique hw hv (isMark_of_mem_head? hstop (by simp [hx]))
        (isMark_of_mem_head? hstop' (by simp [hy])) heq
      obtain ⟨rfl, rfl⟩ := ih h' hx hy hrest
      exact ⟨rfl, rfl⟩
    | pair square _ _ => simp [lead_pair] at hlead
  | @pair square cs ds o p _ _ ih ih' =>
    have hlead := congrArg lead heq
    rw [List.cons_append, lead_pair] at hlead
    cases h' with
    | nil => simp [hy] at hlead
    | gap hd _ => simp [lead_gap hd] at hlead
    | word hne hw _ _ => simp [lead_word hne hw] at hlead
    | @pair square' cs' ds' o' p' h h' =>
      rw [List.cons_append, lead_pair] at hlead
      obtain rfl := Lead.pair.inj hlead
      -- what is inside ends at a closing bracket, and so does what is inside the other pair
      rw [List.cons_append, List.cons_append, List.append_assoc, List.append_assoc,
        List.cons_append, List.cons_append] at heq
      have hinside := (List.cons.inj heq).2
      obtain ⟨rfl, rfl⟩ := ih h lead_closing lead_closing hinside
      have hrest := (List.cons.inj (List.append_cancel_left hinside)).2
      obtain ⟨rfl, rfl⟩ := ih' h' hx hy hrest
      exact ⟨rfl, rfl⟩

/-- **There is at most one reading.** -/
theorem Reads.unique (h : Reads cs o) (h' : Reads cs p) : o = p := by
  have hend : lead [] = .stop := rfl
  exact (h.unique_append h' hend hend rfl).2

/-! ## Readings of longer texts -/

/-- Texts are read one after the other, if no word goes on. -/
theorem Reads.append (h : Reads cs o) (h' : Reads ds p) (hlead : lead ds ≠ .word) :
    Reads (cs ++ ds) (o.append p) := by
  induction h with
  | nil => exact h'
  | gap hc _ ih => exact .gap hc ih
  | word hne hw hstop _ ih =>
    rw [List.append_assoc]
    exact .word hne hw (isMark_of_mem_head? hstop hlead) ih
  | pair square hinside _ _ ih =>
    rw [List.cons_append, List.append_assoc, List.cons_append]
    exact .pair square hinside ih

/-- **The words that are read** are the runs between the marks. -/
theorem Reads.runs_eq (h : Reads cs o) : Text.runs isMark cs = o.words := by
  induction h with
  | nil => exact Text.runs_nil
  | @gap c cs o hc _ ih =>
    have hmark : isMark c = true := by rcases hc with rfl | rfl <;> decide
    rw [Text.runs_cons hmark, ih]
  | word hne hw hstop _ ih => rw [Text.runs_append hne hw hstop, ih, words]
  | pair square _ _ ih ih' =>
    have hmarks : isMark (opening square) = true ∧ isMark (closing square) = true := by
      cases square <;> decide
    rw [Text.runs_cons hmarks.1, Text.runs_append_cons hmarks.2, ih, ih', words]

end Outline

namespace Grammar

open Outline

/-! ## The outline of a grammar -/

mutual

/-- **The outline of sibling slots**: each is a pair of brackets with all it owns inside,
after its name if it is no enum. -/
def outline : Grammar → Outline
  | nil => .nil
  | cons _ slot children rest =>
    .pair slot.optional
      (if slot.isEnum then children.offers else .word (label slot) children.outline) rest.outline

/-- The outline of the options of an enum: each is its name with what it owns after it. -/
def offers : Grammar → Outline
  | nil => .nil
  | cons _ option children rest => .word (label option) (children.outline.append rest.offers)

end

/-- A slot as the usage line comes to it. -/
structure Stop where
  /-- The slot. -/
  slot : Slot
  /-- What it owns. -/
  owned : Grammar
  /-- Whether it stands in a sibling list, and not among the options of an enum. -/
  sibling : Bool

mutual

/-- **The slots below a sibling list**, depth first. What an enum of the list owns are its
options. -/
def stops : Grammar → List Stop
  | nil => []
  | cons _ slot children rest =>
    ⟨slot, children, true⟩ ::
      ((if slot.isEnum then children.optionStops else children.stops) ++ rest.stops)

/-- The slots below the options of an enum. What an option owns is a sibling list, also if
the option is an enum itself. -/
def optionStops : Grammar → List Stop
  | nil => []
  | cons _ option children rest =>
    ⟨option, children, false⟩ :: (children.stops ++ rest.optionStops)

end

namespace Stop

/-- Whether the slot is written with its name: all are but the enums of sibling lists. -/
def isNamed (stop : Stop) : Bool := !(stop.sibling && stop.slot.isEnum)

/-- The name of the slot, if it is written. -/
def names (stops : List Stop) : List (List Char) :=
  (stops.filter isNamed).map fun stop => label stop.slot

/-- The slot with all below it. -/
def subtree (stop : Stop) : List Stop :=
  stop :: if stop.sibling && stop.slot.isEnum then stop.owned.optionStops else stop.owned.stops

/-- The pairs of brackets of some slots: one for each that stands in a sibling list, square
if it is optional, around the names of the slot and all below it. -/
def pairs (stops : List Stop) : List (Bool × List (List Char)) :=
  (stops.filter sibling).map fun stop => (stop.slot.optional, names stop.subtree)

end Stop

variable {g : Grammar}

mutual

/-- The slots are met in the order of the tree, each once. -/
theorem stops_map_slot (g : Grammar) : g.stops.map Stop.slot = g.slots := by
  cases g with
  | nil => rfl
  | cons id slot children rest =>
    rw [stops, slots, List.map_cons, List.map_append, stops_map_slot rest]
    split
    · rw [optionStops_map_slot children]
    · rw [stops_map_slot children]

theorem optionStops_map_slot (g : Grammar) : g.optionStops.map Stop.slot = g.slots := by
  cases g with
  | nil => rfl
  | cons id option children rest =>
    rw [optionStops, slots, List.map_cons, List.map_append, stops_map_slot children,
      optionStops_map_slot rest]

end

/-- A sibling list is its first slot with all below it, and then the later ones. -/
theorem stops_cons {id : SlotId} {slot : Slot} {children rest : Grammar} :
    (cons id slot children rest).stops = Stop.subtree ⟨slot, children, true⟩ ++ rest.stops := by
  rw [stops, Stop.subtree, Bool.true_and, List.cons_append]

theorem optionStops_cons {id : SlotId} {option : Slot} {children rest : Grammar} :
    (cons id option children rest).optionStops =
      Stop.subtree ⟨option, children, false⟩ ++ rest.optionStops := by
  rw [optionStops, Stop.subtree, Bool.false_and, if_neg Bool.false_ne_true, List.cons_append]

@[simp] theorem Stop.names_append (xs ys : List Stop) : names (xs ++ ys) = names xs ++ names ys := by
  rw [names, names, names, List.filter_append, List.map_append]

@[simp] theorem Stop.pairs_append (xs ys : List Stop) : pairs (xs ++ ys) = pairs xs ++ pairs ys := by
  rw [pairs, pairs, pairs, List.filter_append, List.map_append]

mutual

/-- The words of the outline are the names that are written. -/
theorem words_outline (g : Grammar) : g.outline.words = Stop.names g.stops := by
  cases g with
  | nil => rfl
  | cons id slot children rest =>
    rw [outline, stops_cons, Outline.words, Stop.names_append, words_outline rest, Stop.subtree]
    cases henum : slot.isEnum with
    | true => simp [Stop.names, Stop.isNamed, henum, words_offers children]
    | false => simp [Stop.names, Stop.isNamed, henum, Outline.words, words_outline children]

theorem words_offers (g : Grammar) : g.offers.words = Stop.names g.optionStops := by
  cases g with
  | nil => rfl
  | cons id option children rest =>
    rw [offers, optionStops_cons, Outline.words, words_append, Stop.names_append,
      words_outline children, words_offers rest, Stop.subtree]
    simp [Stop.names, Stop.isNamed]

end

mutual

/-- The pairs of the outline are those of the slots of sibling lists. -/
theorem pairs_outline (g : Grammar) : g.outline.pairs = Stop.pairs g.stops := by
  cases g with
  | nil => rfl
  | cons id slot children rest =>
    rw [outline, stops_cons, Outline.pairs, Stop.pairs_append, pairs_outline rest, Stop.subtree]
    cases henum : slot.isEnum with
    | true =>
      simp [Stop.pairs, Stop.subtree, Stop.names, Stop.isNamed, henum, words_offers children,
        pairs_offers children]
    | false =>
      simp [Stop.pairs, Stop.subtree, Stop.names, Stop.isNamed, henum, Outline.words,
        words_outline children, Outline.pairs, pairs_outline children]

theorem pairs_offers (g : Grammar) : g.offers.pairs = Stop.pairs g.optionStops := by
  cases g with
  | nil => rfl
  | cons id option children rest =>
    rw [offers, optionStops_cons, Outline.pairs, pairs_append, Stop.pairs_append,
      pairs_outline children, pairs_offers rest, Stop.subtree]
    simp [Stop.pairs]

end

/-! ## Usage lines -/

variable {slot : Slot} {children : Grammar} {texts : List (List Char)} {cs : List Char}
variable {o : Outline} {c : Char}

/-- Texts with a separator before each of them. -/
def following (c : Char) (texts : List (List Char)) : List Char :=
  if texts.isEmpty then [] else c :: join [c] texts

theorem join_cons : join [c] (cs :: texts) = cs ++ following c texts := by
  cases texts with
  | nil => simp [join, following]
  | cons ds texts => simp [join, following, List.intercalate_cons_cons]

theorem lead_following_append {ds : List Char} (hc : c = ' ' ∨ c = '|') (hds : lead ds ≠ .word) :
    lead (following c texts ++ ds) ≠ .word := by
  rw [following]
  split
  · exact hds
  · simp [lead_gap hc]

theorem lead_following (hc : c = ' ' ∨ c = '|') : lead (following c texts) ≠ .word := by
  have hend : lead [] ≠ .word := by simp [lead]
  have happend : lead (following c texts ++ []) ≠ .word := lead_following_append hc hend
  rwa [List.append_nil] at happend

theorem reads_following (hc : c = ' ' ∨ c = '|') (h : Reads (join [c] texts) o) :
    Reads (following c texts) o := by
  rw [following]
  split
  · next hnil =>
    rw [List.isEmpty_iff.1 hnil] at h
    exact h
  · exact .gap hc h

/-- What a slot that is no enum owns is written after its name. -/
theorem label_following (slot : Slot) (children : Grammar) :
    (if children.isEmpty then label slot else label slot ++ ' ' :: join [' '] children.fragments) =
      label slot ++ following ' ' children.fragments := by
  cases children with
  | nil => simp [isEmpty, following, fragments]
  | cons id first owned rest => simp [isEmpty, following, fragments]

theorem bracket_append (square : Bool) (interior cs : List Char) :
    bracket square interior ++ cs = opening square :: (interior ++ closing square :: cs) := by
  cases square <;> simp [bracket, opening, closing]

/-- A legible name is a word once it is lowered. -/
theorem reads_label (hslot : slot.Legible) (hlead : lead cs ≠ .word) (h : Reads cs o) :
    Reads (label slot ++ cs) (.word (label slot) o) := by
  have hname : slot.name.toList ≠ [] := by simpa using hslot.1
  have hplain : ∀ c ∈ label slot, isMark c = false :=
    Text.contains_of_mem_lower (by decide) hslot.2
  exact .word (Text.lower_ne_nil hname) hplain (isMark_of_lead hlead) h

mutual

/-- The text of sibling slots is read as their outline. -/
theorem reads_fragments (g : Grammar) (h : ∀ slot ∈ g.slots, slot.Legible) :
    Reads (join [' '] g.fragments) g.outline := by
  cases g with
  | nil => exact .nil
  | cons id slot children rest =>
    obtain ⟨hslot, hbelow⟩ := List.forall_mem_cons.1 h
    obtain ⟨hchildren, hrest⟩ := List.forall_mem_append.1 hbelow
    have hlater := reads_following (.inl rfl) (reads_fragments rest hrest)
    rw [fragments, join_cons, bracket_append, outline, label_following]
    refine .pair _ ?_ hlater
    cases henum : slot.isEnum with
    | true => exact reads_choices children hchildren
    | false =>
      have howned := reads_following (.inl rfl) (reads_fragments children hchildren)
      exact reads_label hslot (lead_following (.inl rfl)) howned

/-- So is the text of the options of an enum. -/
theorem reads_choices (g : Grammar) (h : ∀ slot ∈ g.slots, slot.Legible) :
    Reads (join ['|'] g.choices) g.offers := by
  cases g with
  | nil => exact .nil
  | cons id option children rest =>
    obtain ⟨hoption, hbelow⟩ := List.forall_mem_cons.1 h
    obtain ⟨hchildren, hrest⟩ := List.forall_mem_append.1 hbelow
    have howned := reads_following (.inl rfl) (reads_fragments children hchildren)
    have hlater := reads_following (.inr rfl) (reads_choices rest hrest)
    rw [choices, join_cons, label_following, List.append_assoc, offers]
    have hlead : lead (following '|' rest.choices) ≠ .word := lead_following (.inr rfl)
    exact reads_label hoption (lead_following_append (.inl rfl) hlead) (howned.append hlater hlead)

end

/-- **What a usage line shows.** It can be read in one way only, as the outline of the
grammar: each slot of a sibling list is a pair of brackets around all it owns. Its words are
the lowered names of all slots in depth-first order, but of the enums of sibling lists. There
is one pair for each slot of a sibling list, square if it is optional, around the names of
the slot and all below it. -/
theorem usage_shows (h : ∀ slot ∈ g.slots, slot.Legible) :
    (∀ o, Reads g.render.toList o ↔ o = g.outline) ∧
    g.stops.map Stop.slot = g.slots ∧
    Text.runs isMark g.render.toList = Stop.names g.stops ∧
    g.outline.pairs = Stop.pairs g.stops := by
  have hreads : Reads g.render.toList g.outline := by
    rw [render, String.toList_ofList]
    exact reads_fragments g h
  refine ⟨fun o => ⟨fun ho => ho.unique hreads, ?_⟩, stops_map_slot g, ?_, pairs_outline g⟩
  · rintro rfl
    exact hreads
  · rw [hreads.runs_eq, words_outline]

/-- An optional enum, one of whose options is an enum itself, and an optional slot. -/
def lettersGrammar : Grammar :=
  cons 0 { name := "Mode", optional := true, isEnum := true }
    (cons 1 { name := "Read" } nil
      (cons 2 { name := "Send", isEnum := true }
        (cons 3 { name := "User" } (cons 4 { name := "Text", optional := true } nil nil) nil) nil))
    (cons 5 { name := "Limit", optional := true } nil nil)

theorem usage_shows_letters :
    (∀ slot ∈ lettersGrammar.slots, slot.Legible) ∧
    (∀ o, Reads "[read|send <user [text]>] [limit]".toList o ↔ o = lettersGrammar.outline) ∧
    Text.runs isMark "[read|send <user [text]>] [limit]".toList =
      ["read".toList, "send".toList, "user".toList, "text".toList, "limit".toList] ∧
    lettersGrammar.outline.pairs.map Prod.fst = [true, false, true, true] := by
  have hlegible : ∀ slot ∈ lettersGrammar.slots, slot.Legible := by decide
  obtain ⟨hreads, -, hwords, hpairs⟩ := usage_shows hlegible
  have hline : lettersGrammar.render = "[read|send <user [text]>] [limit]" := by decide
  rw [hline] at hreads hwords
  refine ⟨hlegible, hreads, hwords.trans ?_, ?_⟩
  · decide
  · rw [hpairs]
    decide

end Grammar

end Chatline
