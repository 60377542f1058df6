import Chatline.Proofs.Hub.Built
import Chatline.Proofs.Match.Flat
import Chatline.Proofs.Text.Lowering
/-!
# Usage lines that read back

Slots are inferred from bracket notation, and `infer_iff` says from which texts, which slots
they are and what is wrong with all other texts. The usage line of a flat grammar is bracket
notation, so slots can be inferred from it. Names are lowered in it and defaults are left
out, and more is not lost: `infer_render` says that what is read back are the lowered slots,
that their usage line is the same, and that everything that is inferred can be written.
-/

namespace Chatline

/-! ## What is inferred -/

namespace HubM

open Notation

variable {text : String} {hub hub' : Hub} {ids : List SlotId} {failure : Failure}

/-- What is read is kept. -/
theorem infer_eq_ok_iff :
    infer text hub = .ok ids hub' ↔
      ∃ slots, Notation.read text = .ok slots ∧
        ids = List.range' hub.slots.length slots.length ∧
        hub' = hub.storing (hub.slots ++ slots) := by
  rw [infer_eq]
  cases Notation.read text with
  | ok slots =>
    constructor
    · intro h
      cases h
      exact ⟨slots, rfl, rfl, rfl⟩
    · rintro ⟨slots, hslots, rfl, rfl⟩
      cases hslots
      rfl
  | error e =>
    constructor
    · intro h
      cases h
    · rintro ⟨slots, hslots, -⟩
      cases hslots

/-- What is not read is reported, and nothing is kept. -/
theorem infer_eq_error_iff :
    infer text hub = .error failure hub' ↔
      hub' = hub ∧ ∃ e, failure = .build e ∧ Notation.read text = .error e := by
  rw [infer_eq]
  cases Notation.read text with
  | ok slots =>
    constructor
    · intro h
      cases h
    · rintro ⟨-, e, -, he⟩
      cases he
  | error e =>
    constructor
    · intro h
      cases h
      exact ⟨rfl, e, rfl, rfl⟩
    · rintro ⟨rfl, e, rfl, he⟩
      cases he
      rfl

/-- **What is inferred from a text.** Slots are inferred if and only if the text has words
and these are the words of a grammar: then each word gives the next slot. Otherwise nothing
is kept. A blank text is malformed, and else the error is that of the first word
that offends: that it is no word, or has no name, or is required and has a default, or is
required and comes after an optional one, whichever comes first in this order. -/
theorem infer_iff (text : String) (hub : Hub) :
    (∀ ids hub', infer text hub = .ok ids hub' ↔
      Text.words text.toList ≠ [] ∧ ∃ ws, Written (Text.words text.toList) ws ∧
        ids = List.range' hub.slots.length ws.length ∧
        hub' = hub.storing (hub.slots ++ ws.map Word.slot)) ∧
    ∀ failure hub', infer text hub = .error failure hub' ↔
      hub' = hub ∧ ∃ family e, failure = .build e ∧ e.category = family ∧
        ((∀ c ∈ text.toList, Text.isBlank c = true) ∧ family = .malformedGrammar ∧
            e = .emptyNotation ∨
          FirstOffence (Text.words text.toList) family e) := by
  constructor
  · intro ids hub'
    rw [infer_eq_ok_iff]
    constructor
    · rintro ⟨slots, hread, rfl, rfl⟩
      obtain ⟨hne, ws, hwritten, rfl⟩ := read_eq_ok_iff.1 hread
      exact ⟨hne, ws, hwritten, by rw [List.length_map], rfl⟩
    · rintro ⟨hne, ws, hwritten, rfl, rfl⟩
      exact ⟨ws.map Word.slot, read_of_written hne hwritten, by rw [List.length_map], rfl⟩
  · intro failure hub'
    rw [infer_eq_error_iff]
    constructor
    · rintro ⟨rfl, e, rfl, hread⟩
      rcases read_eq_error_iff.1 hread with ⟨hnil, rfl⟩ | ⟨family, hoffence⟩
      · exact ⟨rfl, _, _, rfl, rfl, Or.inl ⟨Text.words_eq_nil_iff.1 hnil, rfl, rfl⟩⟩
      · exact ⟨rfl, family, e, rfl, FirstOffence.category hoffence, Or.inr hoffence⟩
    · rintro ⟨rfl, family, e, rfl, -, ⟨hblank, -, rfl⟩ | hoffence⟩
      · exact ⟨rfl, _, rfl, read_eq_error_iff.2 (Or.inl ⟨Text.words_eq_nil_iff.2 hblank, rfl⟩)⟩
      · exact ⟨rfl, e, rfl, read_of_firstOffence hoffence⟩

end HubM

/-- The slot as its usage line shows it. -/
def Slot.readBack (slot : Slot) : Slot where
  name := Text.lowered slot.name
  optional := slot.optional

namespace Grammar

open Notation

/-- **Slots that can be written in bracket notation**: they are plain, their names hold
nothing but characters that have no meaning there, and they are in order. -/
structure Writable (slots : List Slot) : Prop where
  /-- There is one at least. -/
  nonempty : slots ≠ []
  /-- None is an enum. -/
  word : ∀ slot ∈ slots, slot.isEnum = false
  /-- None owns anything. -/
  childless : ∀ slot ∈ slots, slot.children = []
  /-- Each has a name, as every slot that was built has. -/
  named : ∀ slot ∈ slots, slot.name ≠ ""
  /-- There are no blanks or brackets in it. -/
  legible : ∀ slot ∈ slots, ∀ c ∈ slot.name.toList, Text.isBlank c = false ∧ isBracket c = false
  /-- No required slot comes after an optional one. -/
  ordered : InOrder slots

variable {store slots : List Slot} {ids : List SlotId} {slot : Slot} {c : Char}

/-! ## The line of a flat grammar -/

/-- A slot that owns nothing, as it stands in a usage line. -/
def leaf (slot : Slot) : List Char := bracket slot.optional (label slot)

theorem fragments_flat {entries : List (SlotId × Slot)} (h : ∀ e ∈ entries, e.2.isEnum = false) :
    (flat entries).fragments = entries.map fun e => leaf e.2 := by
  induction entries with
  | nil => rfl
  | cons e entries ih =>
    obtain ⟨hfirst, hlater⟩ := List.forall_mem_cons.1 h
    rw [flat, fragments, ih hlater, hfirst]
    rfl

/-- **The usage line of slots that own nothing** has one word for each. -/
theorem render_layOut (hstored : ids.map (store[·]?) = slots.map some)
    (hword : ∀ slot ∈ slots, slot.isEnum = false)
    (hchildless : ∀ slot ∈ slots, slot.children = []) :
    (layOut store ids).render = String.ofList (join [' '] (slots.map leaf)) := by
  have hlength : ids.length = slots.length := by simpa using congrArg List.length hstored
  have hsnd : (ids.zip slots).map Prod.snd = slots := List.map_snd_zip (by omega)
  have hentries : ∀ e ∈ ids.zip slots, e.2.isEnum = false :=
    fun e he => hword e.2 (List.of_mem_zip he).2
  rw [render, layOut_flat hstored hchildless, fragments_flat hentries, ← hsnd, List.map_map, hsnd]
  rfl

theorem bracket_ne_nil (optional : Bool) (interior : List Char) :
    bracket optional interior ≠ [] := by
  cases optional <;> simp [bracket]

theorem of_mem_bracket {optional : Bool} {interior : List Char}
    (h : c ∈ bracket optional interior) : c ∈ "<>[]".toList ∨ c ∈ interior := by
  cases optional <;> simp_all [bracket] <;> tauto

/-- No brackets come in when a name is lowered. -/
theorem isBracket_of_mem_label (h : ∀ c ∈ slot.name.toList, isBracket c = false) :
    ∀ c ∈ label slot, isBracket c = false :=
  Text.contains_of_mem_lower (by decide) h

@[simp] theorem leaf_readBack (slot : Slot) : leaf slot.readBack = leaf slot := by
  have hlowered : (Text.lowered slot.name).toList = Text.lower slot.name.toList := by
    simp [Text.lowered]
  rw [leaf, leaf, label, label, Slot.readBack, hlowered, Text.lower_lower]

/-! ## Reading it -/

/-- The word that a slot is written as. -/
def wordOf (slot : Slot) : Word := ⟨slot.optional, label slot, []⟩

/-- Slots that can be written are. -/
theorem Writable.written (h : Writable slots) :
    Written (slots.map leaf) (slots.map wordOf) where
  spelled := by
    rw [List.forall₂_map_left_iff, List.forall₂_map_right_iff, List.forall₂_same]
    intro slot hslot
    exact Spelled.bare _ (isBracket_of_mem_label fun d hd => (h.legible slot hslot d hd).2)
  sound := by
    intro w hw
    obtain ⟨slot, hslot, rfl⟩ := List.mem_map.1 hw
    have hname : slot.name.toList ≠ [] := by simpa using h.named slot hslot
    exact ⟨Text.lower_ne_nil hname, fun _ => rfl⟩
  ordered := List.pairwise_map.2 h.ordered

/-- The words of their usage line are theirs. -/
theorem Writable.words_eq (h : Writable slots) :
    Text.words (join [' '] (slots.map leaf)) = slots.map leaf := by
  rw [Text.words_eq_runs, join]
  refine Text.runs_intercalate (by decide) fun text htext => ?_
  obtain ⟨slot, hslot, rfl⟩ := List.mem_map.1 htext
  have hbrackets : "<>[]".toList.all (!Text.isBlank ·) = true := by decide
  refine ⟨bracket_ne_nil _ _, fun c hc => ?_⟩
  rcases of_mem_bracket hc with hc | hc
  · simpa using List.all_eq_true.1 hbrackets c hc
  · exact Text.isBlank_of_mem_lower (fun d hd => (h.legible slot hslot d hd).1) c hc

end Grammar

namespace HubM

open Grammar Notation

variable {text : String} {hub hub' : Hub} {ids : List SlotId}

/-- What is inferred can be written. -/
theorem writable_of_infer (h : infer text hub = .ok ids hub') :
    ∃ slots, ids.map (hub'.slots[·]?) = slots.map some ∧ Writable slots := by
  obtain ⟨slots, hread, rfl, rfl⟩ := infer_eq_ok_iff.1 h
  obtain ⟨hne, ws, hwritten, rfl⟩ := read_eq_ok_iff.1 hread
  have hstored := map_range'_append hub.slots (ws.map Word.slot)
  have hsome : ws ≠ [] := by
    intro hnil
    have hlength := hwritten.spelled.length_eq
    rw [hnil, List.length_nil] at hlength
    exact hne (List.length_eq_zero_iff.1 hlength)
  refine ⟨ws.map Word.slot, hstored, by simpa using hsome, ?_, ?_, ?_, ?_,
    List.pairwise_map.2 hwritten.ordered⟩
  · simp [Word.slot]
  · simp [Word.slot]
  · intro slot hslot
    obtain ⟨w, hw, rfl⟩ := List.mem_map.1 hslot
    simpa [Word.slot] using (hwritten.sound w hw).named
  · intro slot hslot c hc
    obtain ⟨w, hw, rfl⟩ := List.mem_map.1 hslot
    have hc : c ∈ w.name := by simpa [Word.slot] using hc
    obtain ⟨cs, hcs, hspelled⟩ := hwritten.exists_spelled hw
    exact ⟨dark_of_mem_words hcs c (hspelled.name_subset hc), hspelled.isBracket_of_mem c hc⟩

/-- **Usage lines read back.** The usage line of slots that can be written is read as the
lowered slots, one for each and in order, and these have the same usage line. Everything
that is inferred can be written. -/
theorem infer_render :
    (∀ (hub : Hub) (ids : List SlotId) (slots : List Slot),
      ids.map (hub.slots[·]?) = slots.map some → Writable slots →
      ∃ ids' hub', infer (layOut hub.slots ids).render hub = .ok ids' hub' ∧
        ids'.map (hub'.slots[·]?) = (slots.map Slot.readBack).map some ∧
        (layOut hub'.slots ids').render = (layOut hub.slots ids).render) ∧
    ∀ (text : String) (hub hub' : Hub) (ids : List SlotId), infer text hub = .ok ids hub' →
      ∃ slots, ids.map (hub'.slots[·]?) = slots.map some ∧ Writable slots := by
  refine ⟨fun hub ids slots hstored h => ?_, fun text hub hub' ids => writable_of_infer⟩
  have hline := render_layOut hstored h.word h.childless
  have hwords : Text.words (layOut hub.slots ids).render.toList = slots.map leaf := by
    rw [hline, String.toList_ofList, h.words_eq]
  have hread : Notation.read (layOut hub.slots ids).render = .ok (slots.map Slot.readBack) := by
    refine read_eq_ok_iff.2 ⟨?_, slots.map wordOf, ?_, ?_⟩
    · rw [hwords]
      exact fun hnil => h.nonempty (List.map_eq_nil_iff.1 hnil)
    · rw [hwords]
      exact h.written
    · rw [List.map_map]
      rfl
  have hkept := map_range'_append hub.slots (slots.map Slot.readBack)
  refine ⟨_, _, infer_eq_ok_iff.2 ⟨_, hread, rfl, rfl⟩, hkept, ?_⟩
  rw [hline]
  -- the slots that were read back are plain as well, and written in the same way
  have hagain := render_layOut hkept (by simp [Slot.readBack]) (by simp [Slot.readBack])
  rw [Hub.storing, hagain, List.map_map]
  simp only [Function.comp_def, leaf_readBack]

/-- Two slots whose names change when they are lowered: the last sigma of a word has a form
of its own, and an `İ` becomes two characters. -/
def wordSlots : List Slot := [{ name := "ΟΔΟΣ" }, { name := "İd", optional := true }]

theorem wordSlots_writable : Writable wordSlots where
  nonempty := List.cons_ne_nil _ _
  word := by decide
  childless := by decide
  named := by decide
  legible := by
    have hall : wordSlots.all (fun slot =>
        slot.name.toList.all fun c => !Text.isBlank c && !isBracket c) = true := by decide
    simpa only [List.all_eq_true, Bool.and_eq_true, Bool.not_eq_true'] using hall
  ordered := by
    unfold InOrder
    decide

theorem infer_render_wordSlots :
    Writable wordSlots ∧
      ∃ ids' hub', infer "<οδος> [i\u0307d]" { slots := wordSlots } = .ok ids' hub' ∧
        ids'.map (hub'.slots[·]?) = (wordSlots.map Slot.readBack).map some ∧
        (layOut hub'.slots ids').render = "<οδος> [i\u0307d]" := by
  have hline : (layOut wordSlots [0, 1]).render = "<οδος> [i\u0307d]" := by decide
  have hread := infer_render.1 { slots := wordSlots } [0, 1] wordSlots rfl wordSlots_writable
  rw [hline] at hread
  exact ⟨wordSlots_writable, hread⟩

end HubM

end Chatline
