import Chatline.Grammar.Notation
import Chatline.Grammar.Usage
import Chatline.Proofs.Grammar.Visits
import Chatline.Proofs.Text.Runs
import Chatline.Proofs.Text.Stripping
import Mathlib.Data.List.Forall2
import Mathlib.Data.List.Induction
/-!
# What is bracket notation

A text is read as bracket notation word by word. `Spelled` says how a word is written and
`Written` which words make a grammar; neither says how a text is read. Any words are
either those of a grammar or have a first one that offends (`written_or_offence`), and
reading finds out which: `read_eq_ok_iff` and `read_eq_error_iff` say exactly what is read
and with which error the first offence is reported.
-/

namespace Chatline

namespace Notation

/-- **How a word is written**: a name in brackets, which may have a default in parentheses
behind it. -/
inductive Spelled : List Char → Word → Prop
  /-- The name stands alone. -/
  | bare (optional : Bool) {name : List Char} :
      (∀ c ∈ name, isBracket c = false) →
      Spelled (Grammar.bracket optional name) ⟨optional, name, []⟩
  /-- There are parentheses, which may hold nothing. -/
  | valued (optional : Bool) {name default : List Char} :
      (∀ c ∈ name, isBracket c = false) → (∀ c ∈ default, c ≠ '(' ∧ c ≠ ')') →
      Spelled (Grammar.bracket optional name ++ '(' :: (default ++ [')']))
        ⟨optional, name, default⟩

/-- **A sound word** has a name, and a default only if it is optional. -/
structure Word.Sound (w : Word) : Prop where
  /-- It has a name. -/
  named : w.name ≠ []
  /-- A required word has no default. -/
  default : w.optional = false → w.default = []

/-- The slot that a word stands for: it owns nothing and is no enum, and it holds its
default if it has one. -/
def Word.slot (w : Word) : Slot where
  name := String.ofList w.name
  optional := w.optional
  default := if w.default = [] then none else some (String.ofList w.default)
  value := String.ofList w.default

/-- **The words of a grammar**, as they are written. -/
structure Written (texts : List (List Char)) (ws : List Word) : Prop where
  /-- Each is written as a word. -/
  spelled : List.Forall₂ Spelled texts ws
  /-- Each is sound. -/
  sound : ∀ w ∈ ws, w.Sound
  /-- No required word comes after an optional one. -/
  ordered : ws.Pairwise fun w v => w.optional = true → v.optional = true

/-- **What is wrong with a text** at a position, with the family of the error, if an earlier
word is optional or none is. Of several offences it is the first one of this list. -/
inductive Offence (position : Nat) (afterOptional : Bool) (text : List Char) :
    BuildCategory → BuildError → Prop
  /-- It is not written as a word. -/
  | misspelled : (∀ w, ¬ Spelled text w) →
      Offence position afterOptional text .malformedGrammar (.malformedWord (String.ofList text))
  /-- It has no name. -/
  | unnamed {w : Word} : Spelled text w → w.name = [] →
      Offence position afterOptional text .invalidName (.unnamedBrackets position)
  /-- It is required and has a default. -/
  | valued {w : Word} : Spelled text w → w.name ≠ [] → w.optional = false → w.default ≠ [] →
      Offence position afterOptional text .invalidState
        (.requiredForbidsDefault (String.ofList w.name))
  /-- It is required and comes after an optional word. -/
  | misplaced {w : Word} : Spelled text w → w.name ≠ [] → w.optional = false → w.default = [] →
      afterOptional = true →
      Offence position afterOptional text .orderingViolation
        (.requiredAfterOptional .inferred (String.ofList w.name))

/-- **The first offence** of some texts: all before it are the words of a grammar. -/
def FirstOffence (texts : List (List Char)) (family : BuildCategory) (e : BuildError) : Prop :=
  ∃ earlier text later ws, texts = earlier ++ text :: later ∧ Written earlier ws ∧
    Offence (earlier.length + 1) (ws.any (·.optional)) text family e

/-! ## Reading one word -/

variable {cs text name value : List Char} {texts earlier later : List (List Char)}
variable {w : Word} {ws : List Word} {optional afterOptional : Bool} {b : Char} {position : Nat}
variable {before : List Slot} {family : BuildCategory} {e : BuildError}

theorem default?_eq_some_iff :
    default? cs = some value ↔
      cs = [] ∧ value = [] ∨ cs = '(' :: (value ++ [')']) ∧ ∀ c ∈ value, c ≠ '(' ∧ c ≠ ')' := by
  constructor
  · intro h
    unfold default? at h
    split at h
    · exact Or.inl ⟨rfl, by simpa using h.symm⟩
    · next cs =>
      dsimp only at h
      obtain ⟨htaken, -, htext⟩ := Text.exists_takeWhile (fun c => c ≠ '(' && c ≠ ')') cs
      rw [Text.drop_length_takeWhile] at h
      split at h
      · next hclosed =>
        have hvalue : cs.takeWhile (fun c => c ≠ '(' && c ≠ ')') = value := by simpa using h
        rw [hclosed, hvalue] at htext
        rw [hvalue] at htaken
        exact Or.inr ⟨by rw [htext], fun c hc => by simpa using htaken c hc⟩
      · cases h
    · cases h
  · rintro (⟨rfl, rfl⟩ | ⟨rfl, hvalue⟩)
    · rfl
    · have htaken : (value ++ [')']).takeWhile (fun c => c ≠ '(' && c ≠ ')') = value :=
        Text.takeWhile_append_eq (fun c hc => by simpa using hvalue c hc) (by simp)
      rw [default?]
      rw [htaken]
      simp

/-- What follows an opening bracket: a name up to the bracket that closes it. -/
theorem closing?_eq_some_iff (hb : isBracket b = true) :
    closing? optional b cs = some w ↔
      w.optional = optional ∧ (∀ c ∈ w.name, isBracket c = false) ∧
        ∃ rest, cs = w.name ++ b :: rest ∧ default? rest = some w.default := by
  constructor
  · intro h
    obtain ⟨hname, -, htext⟩ := Text.exists_takeWhile (!isBracket ·) cs
    rw [closing?] at h
    rw [Text.drop_length_takeWhile] at h
    split at h
    · cases h
    · next c rest hrest =>
      split at h
      · next hc =>
        obtain ⟨value, hvalue, rfl⟩ := Option.map_eq_some_iff.1 h
        rw [hrest, hc] at htext
        exact ⟨rfl, fun d hd => by simpa using hname d hd, rest, htext, hvalue⟩
      · cases h
  · rintro ⟨rfl, hname, rest, rfl, hvalue⟩
    have hplain : ∀ c ∈ w.name, (!isBracket c) = true := by simpa using hname
    have hstop : ∀ c ∈ (b :: rest).head?, (!isBracket c) = false := by simpa using hb
    rw [closing?]
    rw [Text.drop_length_takeWhile, Text.takeWhile_append_eq hplain hstop,
      Text.dropWhile_append_eq hplain hstop]
    simp [hvalue]

/-- **A word is read** if and only if it is written as one. -/
theorem word?_eq_some_iff : word? text = some w ↔ Spelled text w := by
  have hangle : isBracket '>' = true := by decide
  have hsquare : isBracket ']' = true := by decide
  constructor
  · intro h
    -- whichever bracket opens the word, what follows is a name, its bracket, and a default
    have hspelled : ∀ {cs}, closing? w.optional (if w.optional then ']' else '>') cs = some w →
        Spelled ((if w.optional then '[' else '<') :: cs) w := by
      intro cs hclosing
      have hb : isBracket (if w.optional then ']' else '>') = true := by
        cases w.optional <;> assumption
      obtain ⟨-, hname, rest, rfl, hdefault⟩ := (closing?_eq_some_iff hb).1 hclosing
      obtain ⟨optional, name, value⟩ := w
      rcases default?_eq_some_iff.1 hdefault with ⟨rfl, hnil⟩ | ⟨rfl, hvalue⟩
      · have hvalue : value = [] := hnil
        subst hvalue
        have hbare := Spelled.bare optional hname
        cases optional <;> simpa [Grammar.bracket] using hbare
      · have hvalued := Spelled.valued optional hname hvalue
        cases optional <;> simpa [Grammar.bracket] using hvalued
    unfold word? at h
    split at h
    · have hrequired : w.optional = false := ((closing?_eq_some_iff hangle).1 h).1
      simpa [hrequired] using hspelled (by simpa [hrequired] using h)
    · have hoptional : w.optional = true := ((closing?_eq_some_iff hsquare).1 h).1
      simpa [hoptional] using hspelled (by simpa [hoptional] using h)
    · cases h
  · intro h
    cases h with
    | bare optional hname =>
      cases optional with
      | false =>
        exact (closing?_eq_some_iff hangle).2 ⟨rfl, hname, [], rfl, rfl⟩
      | true =>
        exact (closing?_eq_some_iff hsquare).2 ⟨rfl, hname, [], rfl, rfl⟩
    | valued optional hname hvalue =>
      have hdefault := default?_eq_some_iff.2 (Or.inr ⟨rfl, hvalue⟩)
      cases optional with
      | false =>
        exact (closing?_eq_some_iff hangle).2 ⟨rfl, hname, _, by simp, hdefault⟩
      | true =>
        exact (closing?_eq_some_iff hsquare).2 ⟨rfl, hname, _, by simp, hdefault⟩

/-- The name of a word is part of its text. -/
theorem Spelled.name_subset (h : Spelled text w) : w.name ⊆ text := by
  intro c hc
  cases h with
  | bare optional _ => cases optional <;> simp_all [Grammar.bracket]
  | valued optional _ _ => cases optional <;> simp_all [Grammar.bracket]

/-- It holds no brackets. -/
theorem Spelled.isBracket_of_mem (h : Spelled text w) : ∀ c ∈ w.name, isBracket c = false := by
  cases h with
  | bare _ hname => exact hname
  | valued _ hname _ => exact hname

/-- Each word of a grammar is that of one of the texts. -/
theorem Written.exists_spelled (h : Written texts ws) (hw : w ∈ ws) :
    ∃ text ∈ texts, Spelled text w := by
  obtain ⟨hspelled, -, -⟩ := h
  induction hspelled with
  | nil => cases hw
  | @cons text v texts ws hword _ ih =>
    rcases List.mem_cons.1 hw with rfl | hw
    · exact ⟨text, List.mem_cons_self, hword⟩
    · obtain ⟨text, htext, hspelled⟩ := ih hw
      exact ⟨text, List.mem_cons_of_mem _ htext, hspelled⟩

/-- The slot of a word whose name has no blanks. -/
theorem slotOf_eq (hdark : ∀ c ∈ w.name, Text.isBlank c = false) :
    slotOf position w =
      if w.name = [] then .error (.unnamedBrackets position)
      else if w.optional = false ∧ w.default ≠ [] then
        .error (.requiredForbidsDefault (String.ofList w.name))
      else .ok w.slot := by
  rw [slotOf]
  dsimp only
  rw [(Text.isTrimmed_of_forall hdark).strip_eq]
  by_cases hname : w.name = []
  · simp [hname]
  · by_cases hdefault : w.default = []
    · simp [hname, hdefault, Word.slot]
    · cases hoptional : w.optional <;> simp [hname, hdefault, hoptional, Word.slot]

theorem Word.Sound.slotOf (h : w.Sound) (hdark : ∀ c ∈ w.name, Text.isBlank c = false) :
    slotOf position w = .ok w.slot := by
  have hplaced : ¬ (w.optional = false ∧ w.default ≠ []) := fun hbad => hbad.2 (h.default hbad.1)
  rw [slotOf_eq hdark, if_neg h.named, if_neg hplaced]

/-! ## Reading all words -/

/-- The words that come after those of a grammar are read as they would be at the start, but
that their positions are further on and the slots of the grammar come before theirs. -/
theorem readWords_append (hdark : ∀ text ∈ earlier, ∀ c ∈ text, Text.isBlank c = false)
    (h : Written earlier ws)
    (hafter : ∀ s ∈ before, ∀ w ∈ ws, s.optional = true → w.optional = true) :
    readWords position before (earlier ++ later) =
      (readWords (position + earlier.length) (before ++ ws.map Word.slot) later).map
        (ws.map Word.slot ++ ·) := by
  obtain ⟨hspelled, hsound, hordered⟩ := h
  induction hspelled generalizing position before with
  | nil => cases hread : readWords position before later <;> simp [Except.map, hread]
  | @cons text w texts ws hword _ ih =>
    obtain ⟨hfirst, hlater⟩ := List.forall_mem_cons.1 hsound
    obtain ⟨hplaced, hpairs⟩ := List.pairwise_cons.1 hordered
    obtain ⟨htext, hrest⟩ := List.forall_mem_cons.1 hdark
    have hname : ∀ c ∈ w.name, Text.isBlank c = false := fun c hc => htext c (hword.name_subset hc)
    have horder : Slot.checkOrder .inferred before w.slot = .ok () := by
      have hfits : ¬ ((!w.slot.optional && before.any (·.optional)) = true) := by
        intro hbad
        rw [Bool.and_eq_true, List.any_eq_true] at hbad
        obtain ⟨hrequired, s, hs, hoptional⟩ := hbad
        have hw : w.optional = true := hafter s hs w (by simp) hoptional
        simp [Word.slot, hw] at hrequired
      rw [Slot.checkOrder, if_neg hfits]
    have hnext : ∀ s ∈ before ++ [w.slot], ∀ v ∈ ws, s.optional = true → v.optional = true := by
      intro s hs v hv hoptional
      rcases List.mem_append.1 hs with hs | hs
      · exact hafter s hs v (by simp [hv]) hoptional
      · rw [List.mem_singleton.1 hs] at hoptional
        exact hplaced v hv hoptional
    have hposition : position + 1 + texts.length = position + (text :: texts).length := by
      simp only [List.length_cons]
      omega
    rw [List.cons_append, readWords, word?_eq_some_iff.2 hword]
    dsimp only
    rw [hfirst.slotOf hname]
    have hstep : readWords (position + 1) (before ++ [w.slot]) (texts ++ later) = _ :=
      ih hrest hnext hlater hpairs
    rw [hposition, List.append_assoc, List.singleton_append] at hstep
    simp only [bind, Except.bind, horder, hstep, List.map_cons]
    cases readWords (position + (text :: texts).length) (before ++ w.slot :: ws.map Word.slot) later
      <;> rfl

/-- The words of a grammar are read as its slots. -/
theorem readWords_of_written (hdark : ∀ text ∈ texts, ∀ c ∈ text, Text.isBlank c = false)
    (h : Written texts ws) : readWords 1 [] texts = .ok (ws.map Word.slot) := by
  have hall : readWords 1 [] (texts ++ []) = _ := readWords_append hdark h (by simp)
  simpa [readWords, Except.map] using hall

/-- A text that offends is reported. -/
theorem readWords_of_offence (hdark : ∀ c ∈ text, Text.isBlank c = false)
    (h : Offence position (before.any (·.optional)) text family e) :
    readWords position before (text :: later) = .error e := by
  rw [readWords]
  cases h with
  | misspelled hnone =>
    have hword : word? text = none := by
      refine Option.eq_none_iff_forall_ne_some.2 fun w hw => ?_
      exact hnone w (word?_eq_some_iff.1 hw)
    simp [hword]
  | unnamed hword hname =>
    rw [word?_eq_some_iff.2 hword]
    dsimp only
    rw [slotOf_eq fun c hc => hdark c (hword.name_subset hc), if_pos hname]
    rfl
  | valued hword hname hrequired hdefault =>
    rw [word?_eq_some_iff.2 hword]
    dsimp only
    rw [slotOf_eq fun c hc => hdark c (hword.name_subset hc), if_neg hname,
      if_pos ⟨hrequired, hdefault⟩]
    rfl
  | @misplaced w hword hname hrequired hdefault hafter =>
    have hsound : w.Sound := ⟨hname, fun _ => hdefault⟩
    have horder : Slot.checkOrder .inferred before w.slot =
        .error (.requiredAfterOptional .inferred (String.ofList w.name)) := by
      rw [Slot.checkOrder, if_pos (by simp [Word.slot, hrequired, hafter])]
      rfl
    rw [word?_eq_some_iff.2 hword]
    dsimp only
    rw [hsound.slotOf fun c hc => hdark c (hword.name_subset hc)]
    simp only [bind, Except.bind, horder]

/-- **Any texts are the words of a grammar, or one of them is the first to offend.** -/
theorem written_or_offence (texts : List (List Char)) :
    (∃ ws, Written texts ws) ∨ ∃ family e, FirstOffence texts family e := by
  induction texts using List.reverseRecOn with
  | nil => exact Or.inl ⟨[], .nil, by simp, .nil⟩
  | append_singleton texts text ih =>
    rcases ih with ⟨ws, hwritten⟩ | ⟨family, e, earlier, bad, later, ws, rfl, hwritten, hoffence⟩
    · have hlast : ∀ {family e}, Offence (texts.length + 1) (ws.any (·.optional)) text family e →
          ∃ family e, FirstOffence (texts ++ [text]) family e :=
        fun hoffence => ⟨_, _, texts, text, [], ws, rfl, hwritten, hoffence⟩
      -- the errors are looked for one after the other
      by_cases hspelled : ∃ w, Spelled text w
      · obtain ⟨w, hword⟩ := hspelled
        by_cases hname : w.name = []
        · exact Or.inr (hlast (.unnamed hword hname))
        by_cases hdefault : w.optional = false ∧ w.default ≠ []
        · exact Or.inr (hlast (.valued hword hname hdefault.1 hdefault.2))
        have hsound : w.Sound := ⟨hname, fun hrequired => by
          by_contra hvalue
          exact hdefault ⟨hrequired, hvalue⟩⟩
        by_cases horder : w.optional = false ∧ ws.any (·.optional) = true
        · exact Or.inr (hlast (.misplaced hword hname horder.1 (hsound.default horder.1) horder.2))
        refine Or.inl ⟨ws ++ [w], ?_, ?_, ?_⟩
        · exact List.rel_append hwritten.spelled (.cons hword .nil)
        · intro v hv
          rcases List.mem_append.1 hv with hv | hv
          · exact hwritten.sound v hv
          · rwa [List.mem_singleton.1 hv]
        · refine List.pairwise_append.2 ⟨hwritten.ordered, List.pairwise_singleton _ _, ?_⟩
          intro v hv u hu hoptional
          rw [List.mem_singleton.1 hu]
          by_contra hrequired
          exact horder ⟨by simpa using hrequired, List.any_eq_true.2 ⟨v, hv, hoptional⟩⟩
      · exact Or.inr (hlast (.misspelled fun w hword => hspelled ⟨w, hword⟩))
    · exact Or.inr ⟨family, e, earlier, bad, later ++ [text], ws, by simp, hwritten, hoffence⟩

/-- The error of an offence is of its family. -/
theorem FirstOffence.category (h : FirstOffence texts family e) : e.category = family := by
  obtain ⟨earlier, text, later, ws, -, -, hoffence⟩ := h
  cases hoffence <;> rfl

/-- No word of a text has a blank in it. -/
theorem dark_of_mem_words (h : text ∈ Text.words cs) : ∀ c ∈ text, Text.isBlank c = false := by
  rw [Text.words_eq_runs] at h
  exact (Text.of_mem_runs h).2

/-- A text whose words are those of a grammar is read as its slots. -/
theorem read_of_written {s : String} (hne : Text.words s.toList ≠ [])
    (h : Written (Text.words s.toList) ws) : read s = .ok (ws.map Word.slot) := by
  have hread := readWords_of_written (fun _ => dark_of_mem_words) h
  rw [read]
  split
  · next hnil => exact absurd hnil hne
  · exact hread

/-- A text of which a word offends is refused with the error of the first that does. -/
theorem read_of_firstOffence {s : String} (h : FirstOffence (Text.words s.toList) family e) :
    read s = .error e := by
  obtain ⟨earlier, text, later, ws, hwords, hwritten, hoffence⟩ := h
  have hdark : ∀ t ∈ Text.words s.toList, ∀ c ∈ t, Text.isBlank c = false :=
    fun _ => dark_of_mem_words
  rw [hwords] at hdark
  have hbefore : ([] ++ ws.map Word.slot).any (·.optional) = ws.any (·.optional) := by
    rw [List.nil_append, List.any_map]
    rfl
  have hreport : readWords 1 [] (earlier ++ text :: later) = .error e := by
    rw [readWords_append (fun t ht => hdark t (by simp [ht])) hwritten (by simp),
      readWords_of_offence (hdark text (by simp)) (by rwa [hbefore, Nat.add_comm])]
    rfl
  rw [read, hwords]
  split
  · next hnil => simp at hnil
  · exact hreport

/-- **What is read**: a text is a grammar if and only if it has words and these are the words
of a grammar, and then it is the grammar of their slots. -/
theorem read_eq_ok_iff {s : String} {slots : List Slot} :
    read s = .ok slots ↔
      Text.words s.toList ≠ [] ∧
        ∃ ws, Written (Text.words s.toList) ws ∧ slots = ws.map Word.slot := by
  constructor
  · intro h
    have hne : Text.words s.toList ≠ [] := by
      intro hnil
      rw [read, hnil] at h
      cases h
    rcases written_or_offence (Text.words s.toList) with ⟨ws, hwritten⟩ | ⟨family, e, hoffence⟩
    · rw [read_of_written hne hwritten] at h
      exact ⟨hne, ws, hwritten, (Except.ok.inj h).symm⟩
    · rw [read_of_firstOffence hoffence] at h
      cases h
  · rintro ⟨hne, ws, hwritten, rfl⟩
    exact read_of_written hne hwritten

/-- The slots of bracket notation are in order. -/
theorem inOrder_of_read {s : String} {slots : List Slot} (h : read s = .ok slots) :
    Grammar.InOrder slots := by
  obtain ⟨-, ws, hwritten, rfl⟩ := read_eq_ok_iff.1 h
  exact List.pairwise_map.2 hwritten.ordered

/-- **What is not read**: a text is refused if and only if it has no words or one of them is
the first to offend. -/
theorem read_eq_error_iff {s : String} :
    read s = .error e ↔
      Text.words s.toList = [] ∧ e = .emptyNotation ∨
        ∃ family, FirstOffence (Text.words s.toList) family e := by
  constructor
  · intro h
    by_cases hnil : Text.words s.toList = []
    · rw [read, hnil] at h
      exact Or.inl ⟨hnil, (Except.error.inj h).symm⟩
    · rcases written_or_offence (Text.words s.toList) with ⟨ws, hwritten⟩ | ⟨family, e', hoffence⟩
      · rw [read_of_written hnil hwritten] at h
        cases h
      · rw [read_of_firstOffence hoffence] at h
        cases h
        exact Or.inr ⟨family, hoffence⟩
  · rintro (⟨hnil, rfl⟩ | ⟨family, hoffence⟩)
    · rw [read, hnil]
    · exact read_of_firstOffence hoffence

end Notation

end Chatline
