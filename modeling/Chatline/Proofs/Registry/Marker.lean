import Chatline.Proofs.Text.Lowering
import Chatline.Proofs.Text.Stripping
import Chatline.Registry
/-!
# Marked lines

A registry takes a line for a call if the lowered line starts with the lowered
marker, and cuts as many characters off the line as the marker has. One would expect
it to compare just the characters that it cuts off (`Registry.cutAt?`). The two
differ because lowering makes two characters of `İ`, and because the lower case of a
sigma depends on what follows. `callIn?_eq_cutAt?_iff` says for which markers the
two agree on all lines, and which lines are taken that start with the very marker.
-/

namespace Chatline

namespace Text

/-! ## Sigmas at the end of a word -/

/-- Whether one of some letters stands last in its word in a text: after a character
that has case, with nothing but skipped characters to follow. `met` tells whether the
text comes after a character that has case. -/
def closesWord (letters : List Char) (met : Bool) : List Char → Bool
  | [] => false
  | c :: cs =>
    (letters.contains c && met && cs.all isIgnorable) ||
      closesWord letters (if isIgnorable c then met else isCased c) cs

section Closing

variable {before cs ds after letters : List Char} {c : Char} {met : Bool}

/-- A letter closes its word where a character that has case stands before it and
nothing but skipped characters after it. -/
theorem closesWord_iff :
    closesWord letters (meetsCased before) cs = true ↔
      ∃ a c b, cs = a ++ c :: b ∧ c ∈ letters ∧ meetsCased (a.reverse ++ before) = true ∧
        ∀ x ∈ b, isIgnorable x = true := by
  induction cs generalizing before with
  | nil => simp [closesWord]
  | cons c cs ih =>
    rw [closesWord, ← meetsCased_cons, Bool.or_eq_true, ih, Bool.and_eq_true, Bool.and_eq_true,
      List.contains_iff_mem, List.all_eq_true]
    constructor
    · rintro (⟨⟨hc, hmet⟩, hcs⟩ | ⟨a, d, b, rfl, hd, hmet, hb⟩)
      · exact ⟨[], c, cs, rfl, hc, hmet, hcs⟩
      · refine ⟨c :: a, d, b, rfl, hd, ?_, hb⟩
        rwa [List.reverse_cons, List.append_assoc]
    · rintro ⟨a, d, b, hsplit, hd, hmet, hb⟩
      cases a with
      | nil =>
        cases hsplit
        exact Or.inl ⟨⟨hd, hmet⟩, hb⟩
      | cons e a =>
        cases hsplit
        rw [List.reverse_cons, List.append_assoc] at hmet
        exact Or.inr ⟨a, d, b, rfl, hd, hmet, hb⟩

theorem meetsCased_append_of_all (h : ∀ x ∈ cs, isIgnorable x = true) :
    meetsCased (cs ++ ds) = meetsCased ds := by
  rw [meetsCased_append, if_pos (List.all_eq_true.2 h)]

/-- **When a text is lowered as if nothing came after it**: unless a capital sigma
closes a word in the text and what comes after continues the word. -/
theorem lowerIn_eq_iff :
    lowerIn before cs after = lowerIn before cs [] ↔
      ¬ (closesWord ['Σ'] (meetsCased before) cs = true ∧ meetsCased after = true) := by
  induction cs generalizing before with
  | nil => simp [lowerIn, closesWord]
  | cons c cs ih =>
    -- the first character gives as many characters either way: heads and tails are compared apart
    have hlength : (lowerBetween before c (cs ++ after)).length =
        (lowerBetween before c (cs ++ [])).length := by
      by_cases hdotted : c = 'İ'
      · rw [hdotted, lowerBetween_dotted, lowerBetween_dotted]
      · obtain ⟨d, hd, -⟩ := lowerBetween_eq hdotted before (cs ++ after)
        obtain ⟨e, he, -⟩ := lowerBetween_eq hdotted before (cs ++ [])
        rw [hd, he, List.length_singleton, List.length_singleton]
    have hhead : lowerBetween before c (cs ++ after) = lowerBetween before c (cs ++ []) ↔
        ¬ ((c = 'Σ' ∧ meetsCased before = true ∧ cs.all isIgnorable = true) ∧
          meetsCased after = true) := by
      by_cases hsigma : c = 'Σ'
      · rw [lowerBetween, lowerBetween, if_pos hsigma, if_pos hsigma, meetsCased_append,
          meetsCased_append]
        by_cases hcs : cs.all isIgnorable = true
        · rw [if_pos hcs, if_pos hcs, hcs]
          cases meetsCased before <;> cases meetsCased after <;> simp [hsigma, meetsCased]
        · rw [if_neg hcs, if_neg hcs]
          exact iff_of_true rfl fun h => hcs h.1.2.2
      · rw [lowerBetween, lowerBetween, if_neg hsigma, if_neg hsigma]
        exact iff_of_true rfl fun h => hsigma h.1.1
    have hsplit : lowerIn before (c :: cs) after = lowerIn before (c :: cs) [] ↔
        lowerBetween before c (cs ++ after) = lowerBetween before c (cs ++ []) ∧
          lowerIn (c :: before) cs after = lowerIn (c :: before) cs [] := by
      constructor
      · exact fun h => List.append_inj h hlength
      · rintro ⟨hhead, htail⟩
        rw [lowerIn, lowerIn, hhead, htail]
    have hcloses : closesWord ['Σ'] (meetsCased before) (c :: cs) = true ↔
        (c = 'Σ' ∧ meetsCased before = true ∧ cs.all isIgnorable = true) ∨
          closesWord ['Σ'] (meetsCased (c :: before)) cs = true := by
      rw [closesWord, ← meetsCased_cons, Bool.or_eq_true, Bool.and_eq_true, Bool.and_eq_true,
        List.contains_iff_mem, List.mem_singleton, and_assoc]
    rw [hsplit, hhead, ih, hcloses]
    grind

theorem isIgnorable_of_mem_lowerIn (h : ∀ x ∈ cs, isIgnorable x = true)
    (hc : c ∈ lowerIn before cs after) : isIgnorable c = true := by
  induction cs generalizing before with
  | nil => cases hc
  | cons d cs ih =>
    obtain ⟨hd, hcs⟩ := List.forall_mem_cons.1 h
    rcases List.mem_append.1 hc with hhead | htail
    · have hdotted : d ≠ 'İ' := by
        rintro rfl
        exact absurd hd (by decide)
      obtain ⟨e, heq, he⟩ := lowerBetween_eq hdotted before (cs ++ after)
      rw [heq, List.mem_singleton] at hhead
      rw [hhead, he.ignorable, hd]
    · exact ih hcs htail

/-- A capital sigma that closes a word is lowered to a sigma that closes a word. -/
theorem closesWord_lowerIn (h : closesWord ['Σ'] (meetsCased before) cs = true) :
    closesWord ['σ', 'ς'] (meetsCased before) (lowerIn before cs after) = true := by
  obtain ⟨a, c, b, rfl, hc, hmet, hb⟩ := closesWord_iff.1 h
  have hsigma : ∃ s ∈ ['σ', 'ς'], lowerBetween (a.reverse ++ before) c (b ++ after) = [s] := by
    rw [List.mem_singleton.1 hc, lowerBetween, if_pos rfl]
    split
    · exact ⟨'ς', by decide, rfl⟩
    · exact ⟨'σ', by decide, rfl⟩
  obtain ⟨s, hs, heq⟩ := hsigma
  rw [lowerIn_append, lowerIn, heq, List.singleton_append]
  refine closesWord_iff.2 ⟨_, s, _, rfl, hs, ?_, fun x => isIgnorable_of_mem_lowerIn hb⟩
  rwa [meetsCased_reverse_lowerIn]

end Closing

/-! ## Markers that are compared character by character -/

/-- **A plain marker**, lowered: nothing that is lowered to it is lowered together with
what follows it. No `İ` can be lowered to a part of it or across its end, and no sigma
stands last in a word in it. -/
structure IsPlain (marker : List Char) : Prop where
  /-- No two characters of it are those of a lowered `İ`. -/
  undotted : ¬ ['i', '\u0307'] <:+: marker
  /-- It does not end with the first of the two. -/
  ended : ¬ ['i'] <:+ marker
  /-- Its sigmas have something after them in their words. -/
  unclosed : closesWord ['σ', 'ς'] false marker = false

section Marked

variable {marker line : List Char}

/-- A lowered text is longer than the text only if an `İ` is in it, and then the
characters of a lowered `İ` are. -/
theorem dotted_infix_of_mem (before after : List Char) (h : 'İ' ∈ line) :
    ['i', '\u0307'] <:+: lowerIn before line after := by
  obtain ⟨a, b, rfl⟩ := List.append_of_mem h
  rw [lowerIn_append, lowerIn, lowerBetween_dotted]
  exact List.infix_append' _ _ _

theorem length_lowerIn_of_notMem {before after : List Char} (h : 'İ' ∉ line) :
    (lowerIn before line after).length = line.length := by
  rw [length_lowerIn, List.count_eq_zero.2 h, Nat.add_zero]

/-- That the lowered line starts with the lowered marker exactly if as many characters
of the line as the marker has are lowered to it. -/
def Agrees (marker line : List Char) : Prop :=
  lower marker <+: lower line ↔ lower (line.take marker.length) = lower marker

/-- What a plain marker is lowered from has its length. -/
theorem IsPlain.notMem (h : IsPlain (lower marker)) : 'İ' ∉ marker := by
  intro hmem
  rw [lower_eq] at h
  exact h.undotted (dotted_infix_of_mem [] [] hmem)

/-- No `İ` stands in the part of a line whose lowered form starts with a plain marker,
as far as the marker is long. -/
theorem IsPlain.notMem_take (h : IsPlain (lower marker)) (hstarts : lower marker <+: lower line) :
    'İ' ∉ line.take marker.length := by
  intro hmem
  obtain ⟨a, b, htake, ha⟩ := List.eq_append_cons_of_mem hmem
  have hshort : a.length < marker.length := by
    have := congrArg List.length htake
    simp at this
    omega
  have hline : line = a ++ 'İ' :: (b ++ line.drop marker.length) := by
    calc line = line.take marker.length ++ line.drop marker.length :=
          (List.take_append_drop _ _).symm
      _ = _ := by rw [htake, List.append_assoc, List.cons_append]
  have hlength : (lower marker).length = marker.length := by
    rw [lower_eq, length_lowerIn_of_notMem h.notMem]
  have hlower : ∃ front rest, lower line = front ++ ('i' :: '\u0307' :: rest) ∧
      front.length = a.length := by
    rw [hline, lower_append, lowerIn, lowerBetween_dotted]
    exact ⟨_, _, rfl, length_lowerIn_of_notMem ha⟩
  obtain ⟨front, rest, hlower, hfront⟩ := hlower
  rw [hlower] at hstarts
  -- the marker ends in the `İ` or after it
  have hone : front ++ ['i'] <+: lower marker := by
    refine List.prefix_of_prefix_length_le ?_ hstarts (by simp; omega)
    exact ⟨'\u0307' :: rest, by simp⟩
  by_cases hends : marker.length = a.length + 1
  · have heq := hone.eq_of_length (by simp; omega)
    exact h.ended (heq ▸ List.suffix_append _ _)
  · have htwo : front ++ ['i', '\u0307'] <+: lower marker := by
      refine List.prefix_of_prefix_length_le ?_ hstarts (by simp; omega)
      exact ⟨rest, by simp⟩
    exact h.undotted ((List.suffix_append _ _).isInfix.trans htwo.isInfix)

/-- What is lowered to a plain marker is lowered as if nothing came after it. -/
theorem IsPlain.lowerIn_eq {other : List Char} (h : IsPlain (lowerIn [] line other))
    (after : List Char) : lowerIn [] line after = lowerIn [] line [] := by
  refine lowerIn_eq_iff.2 fun hcloses => ?_
  have hclosed : closesWord ['σ', 'ς'] false (lowerIn [] line other) = true :=
    closesWord_lowerIn hcloses.1
  exact Bool.false_ne_true (h.unclosed.symm.trans hclosed)

/-- **A plain marker** agrees with every line. -/
theorem IsPlain.agrees (h : IsPlain (lower marker)) (line : List Char) : Agrees marker line := by
  have hlength : (lower marker).length = marker.length := by
    rw [lower_eq, length_lowerIn_of_notMem h.notMem]
  have hline : lower line = lowerIn [] (line.take marker.length) (line.drop marker.length) ++
      lowerIn (line.take marker.length).reverse (line.drop marker.length) [] := by
    rw [← lower_append, List.take_append_drop]
  constructor
  · intro hstarts
    have hundotted := h.notMem_take hstarts
    have heq : lower marker =
        lowerIn [] (line.take marker.length) (line.drop marker.length) := by
      have hlong : marker.length ≤ line.length := by
        refine Nat.le_of_not_lt fun hshort => ?_
        rw [List.take_of_length_le (by omega)] at hundotted
        have hle := hstarts.length_le
        rw [hlength, lower_eq line, length_lowerIn_of_notMem hundotted] at hle
        omega
      have hsame : (lowerIn [] (line.take marker.length) (line.drop marker.length)).length =
          (lower marker).length := by
        rw [length_lowerIn_of_notMem hundotted, hlength, List.length_take, Nat.min_eq_left hlong]
      refine ((List.prefix_of_prefix_length_le ?_ hstarts (Nat.le_of_eq hsame)).eq_of_length
        hsame).symm
      exact hline ▸ List.prefix_append _ _
    rw [heq] at h ⊢
    rw [lower_eq, ← h.lowerIn_eq (line.drop marker.length)]
  · intro heq
    have hclosed : lowerIn [] (line.take marker.length) (line.drop marker.length) =
        lower marker := by
      rw [← heq, lower_eq] at h
      rw [h.lowerIn_eq, ← lower_eq, heq]
    rw [hline, hclosed]
    exact List.prefix_append _ _

/-- A character between two low texts is all that is lowered. -/
theorem lower_around {a b : List Char} {c : Char} (ha : ∀ x ∈ a, IsLow x)
    (hb : ∀ x ∈ b, IsLow x) : lower (a ++ c :: b) = a ++ (lowerBetween a.reverse c b ++ b) := by
  rw [lower_eq, lowerIn_append, lowerIn_of_isLow ha, lowerIn, lowerIn_of_isLow hb,
    List.append_nil, List.append_nil]

theorem isLow_of_mem_lower {c : Char} (h : c ∈ lower marker) : IsLow c := by
  rw [lower_eq] at h
  exact (of_mem_lowerIn h).1

section Converse

variable {a b : List Char} {c : Char}

theorem isLow_a : IsLow 'a' := ⟨by decide, by decide⟩

/-- The lowered marker with more to follow: it is lowered to itself, and is longer than
the marker. -/
theorem not_agrees_of_mem (h : 'İ' ∈ marker) : ¬ Agrees marker (lower marker ++ ['a']) := by
  have hlow : ∀ c ∈ lower marker ++ ['a'], IsLow c :=
    List.forall_mem_append.2 ⟨fun c => isLow_of_mem_lower, List.forall_mem_singleton.2 isLow_a⟩
  have hlonger : marker.length < (lower marker).length := by
    have hcount := List.count_pos_iff.2 h
    rw [lower_eq, length_lowerIn]
    omega
  intro hagrees
  have hfound : lower marker <+: lower (lower marker ++ ['a']) := by
    rw [lower_eq (_ ++ _), lowerIn_of_isLow hlow]
    exact List.prefix_append _ _
  have hcut := congrArg List.length (hagrees.1 hfound)
  rw [lower_eq, lowerIn_of_isLow fun c hc => hlow c (List.mem_of_mem_take hc),
    List.length_take] at hcut
  omega

/-- An `İ` in the place of the characters that it is lowered to: as many characters of
the line as the marker has are one too many. -/
theorem not_agrees_of_dotted (hlength : (lower marker).length = marker.length)
    (h : lower marker = a ++ 'i' :: '\u0307' :: b) :
    ¬ Agrees marker (a ++ 'İ' :: (b ++ ['a'])) := by
  have hlow : ∀ c ∈ a ++ 'i' :: '\u0307' :: b, IsLow c := h ▸ fun c => isLow_of_mem_lower
  rw [List.forall_mem_append, List.forall_mem_cons, List.forall_mem_cons] at hlow
  obtain ⟨ha, -, -, hb⟩ := hlow
  have hline : lower (a ++ 'İ' :: (b ++ ['a'])) = lower marker ++ ['a'] := by
    rw [lower_around ha (List.forall_mem_append.2 ⟨hb, List.forall_mem_singleton.2 isLow_a⟩),
      lowerBetween_dotted, h]
    simp
  have hwhole : (a ++ 'İ' :: (b ++ ['a'])).length = marker.length := by
    rw [← hlength, h]
    simp
  intro hagrees
  have hcut := hagrees.1 (hline ▸ List.prefix_append _ _)
  rw [List.take_of_length_le (Nat.le_of_eq hwhole), hline] at hcut
  have := congrArg List.length hcut
  simp at this

/-- An `İ` in the place of an `i` at the end: its dot is cut off from the lowered line. -/
theorem not_agrees_of_ended (hlength : (lower marker).length = marker.length)
    (h : lower marker = a ++ ['i']) : ¬ Agrees marker (a ++ 'İ' :: ['a']) := by
  have hlow : ∀ c ∈ a ++ ['i'], IsLow c := h ▸ fun c => isLow_of_mem_lower
  obtain ⟨ha, -⟩ := List.forall_mem_append.1 hlow
  have hline : lower (a ++ 'İ' :: ['a']) = lower marker ++ ['\u0307', 'a'] := by
    rw [lower_around ha (List.forall_mem_singleton.2 isLow_a), lowerBetween_dotted, h]
    simp
  have htake : (a ++ 'İ' :: ['a']).take marker.length = a ++ ['İ'] := by
    rw [show a ++ 'İ' :: ['a'] = (a ++ ['İ']) ++ ['a'] by simp, ← hlength, h]
    exact List.take_left' (by simp)
  intro hagrees
  have hcut := hagrees.1 (hline ▸ List.prefix_append _ _)
  rw [htake, lower_around ha (List.forall_mem_nil _), lowerBetween_dotted, h] at hcut
  simp at hcut

/-- A capital sigma in the place of a sigma that closes its word: in the line something
follows it, in as many characters as the marker has nothing does. -/
theorem not_agrees_of_sigma (hlength : (lower marker).length = marker.length)
    (h : lower marker = a ++ c :: b) (hc : c ∈ ['σ', 'ς']) (hmet : meetsCased a.reverse = true)
    (hb : ∀ x ∈ b, isIgnorable x = true) : ¬ Agrees marker (a ++ 'Σ' :: (b ++ ['a'])) := by
  have hlow : ∀ x ∈ a ++ c :: b, IsLow x := h ▸ fun c => isLow_of_mem_lower
  rw [List.forall_mem_append, List.forall_mem_cons] at hlow
  obtain ⟨ha, -, hlowb⟩ := hlow
  have hopen : lower (a ++ 'Σ' :: (b ++ ['a'])) = (a ++ 'σ' :: b) ++ ['a'] := by
    have hafter : meetsCased (b ++ ['a']) = true := by
      rw [meetsCased_append_of_all hb]
      decide
    rw [lower_around ha (List.forall_mem_append.2 ⟨hlowb, List.forall_mem_singleton.2 isLow_a⟩),
      lowerBetween, if_pos rfl, hafter]
    simp
  have hclosed : lower (a ++ 'Σ' :: b) = a ++ 'ς' :: b := by
    have hafter : meetsCased b = false := by
      rw [← List.append_nil b, meetsCased_append_of_all hb]
      rfl
    rw [lower_around ha hlowb, lowerBetween, if_pos rfl, hmet, hafter]
    rfl
  have htake : (a ++ 'Σ' :: (b ++ ['a'])).take marker.length = a ++ 'Σ' :: b := by
    rw [← hlength, h, ← List.cons_append, ← List.append_assoc]
    exact List.take_left' (by simp)
  rw [Agrees, hopen, htake, hclosed, h]
  intro hagrees
  have hsigma : c = 'σ' ∨ c = 'ς' := by simpa using hc
  rcases hsigma with rfl | rfl
  · have hcut := hagrees.1 (List.prefix_append _ _)
    simp at hcut
  · have hfound := List.prefix_of_prefix_length_le (hagrees.2 rfl)
      (List.prefix_append (a ++ 'σ' :: b) ['a']) (by simp)
    have hsame := hfound.eq_of_length (by simp)
    simp at hsame

/-- A lowered text starts with no blank if the text does not. -/
theorem isBlank_head_lower (h : ∀ c ∈ marker.head?, isBlank c = false) :
    ∀ c ∈ (lower marker).head?, isBlank c = false := by
  cases marker with
  | nil => exact fun c hc => absurd hc (Option.not_mem_none c)
  | cons d ds =>
    have hd : isBlank d = false := h d rfl
    rw [lower_eq, lowerIn]
    by_cases hdotted : d = 'İ'
    · rw [hdotted, lowerBetween_dotted]
      intro c hc
      rw [← Option.some_inj.1 hc]
      decide
    · obtain ⟨e, heq, he⟩ := lowerBetween_eq hdotted [] (ds ++ [])
      rw [heq]
      intro c hc
      rw [← Option.some_inj.1 hc, he.blank, hd]

/-- A line that starts like a lowered marker, or with a character that is not blank, and
ends with an `a` is trimmed. -/
theorem strip_around (ha : ∀ x ∈ a.head?, isBlank x = false) (hc : isBlank c = false) :
    strip (a ++ c :: (b ++ ['a'])) = a ++ c :: (b ++ ['a']) := by
  refine IsTrimmed.strip_eq ⟨?_, ?_⟩
  · cases a with
    | nil =>
      intro x hx
      rw [← Option.some_inj.1 hx, hc]
    | cons d a => exact ha
  · intro x hx
    rw [show a ++ c :: (b ++ ['a']) = (a ++ c :: b) ++ ['a'] by simp, List.getLast?_concat] at hx
    rw [← Option.some_inj.1 hx]
    decide

/-- **A marker that is not plain** disagrees with some line. -/
theorem exists_not_agrees (htrimmed : IsTrimmed marker) (h : ¬ IsPlain (lower marker)) :
    ∃ line, strip line = line ∧ ¬ Agrees marker line := by
  have hhead := isBlank_head_lower htrimmed.head
  -- each way not to be plain has a line of its own; an `İ` in the marker is told apart first,
  -- since the marker has the length of its lowered form in the other cases
  by_cases hmem : 'İ' ∈ marker
  · refine ⟨lower marker ++ ['a'], ?_, not_agrees_of_mem hmem⟩
    cases hlower : lower marker with
    | nil =>
      have hlength := congrArg List.length hlower
      have hcount := List.count_pos_iff.2 hmem
      rw [lower_eq, length_lowerIn, List.length_nil] at hlength
      omega
    | cons c cs =>
      rw [hlower] at hhead
      exact strip_around (a := []) (fun x hx => absurd hx (Option.not_mem_none x)) (hhead c rfl)
  have hlength : (lower marker).length = marker.length := by
    rw [lower_eq, length_lowerIn_of_notMem hmem]
  have hstarts {a b : List Char} (heq : lower marker = a ++ b) :
      ∀ x ∈ a.head?, isBlank x = false := by
    intro x hx
    refine hhead x ?_
    rw [heq, List.head?_append, Option.mem_def.1 hx]
    rfl
  by_cases hdotted : ['i', '\u0307'] <:+: lower marker
  · obtain ⟨a, b, heq⟩ := hdotted
    have hsplit : lower marker = a ++ 'i' :: '\u0307' :: b := by simp [← heq]
    exact ⟨_, strip_around (hstarts hsplit) (by decide), not_agrees_of_dotted hlength hsplit⟩
  by_cases hends : ['i'] <:+ lower marker
  · obtain ⟨a, heq⟩ := hends
    exact ⟨_, strip_around (b := []) (hstarts heq.symm) (by decide),
      not_agrees_of_ended hlength heq.symm⟩
  have hcloses : closesWord ['σ', 'ς'] (meetsCased []) (lower marker) = true := by
    cases hopen : closesWord ['σ', 'ς'] (meetsCased []) (lower marker) with
    | true => rfl
    | false => exact absurd ⟨hdotted, hends, hopen⟩ h
  obtain ⟨a, c, b, heq, hc, hmet, hb⟩ := closesWord_iff.1 hcloses
  rw [List.append_nil] at hmet
  exact ⟨_, strip_around (hstarts heq) (by decide), not_agrees_of_sigma hlength heq hc hmet hb⟩

end Converse

end Marked

end Text

namespace Registry

/-- What follows the marker in a line whose first characters, as many as the marker has,
are those of the marker up to letter case. -/
def cutAt? (registry : Registry) (line : String) : Option String :=
  let line := Text.strip line.toList
  let marker := registry.marker.toList
  if Text.lower (line.take marker.length) = Text.lower marker then
    some (String.ofList (line.drop marker.length))
  else none

variable {registry : Registry} {line : String} {rest : List Char}

/-- With a marker, a line is taken for a call exactly if its lowered form starts with
the lowered marker. -/
theorem callIn?_eq (h : registry.marker.toList ≠ []) :
    registry.callIn? line =
      if Text.lower registry.marker.toList <+: Text.lower (Text.strip line.toList) then
        some (String.ofList ((Text.strip line.toList).drop registry.marker.toList.length))
      else none := by
  have hlower : Text.lower registry.marker.toList ≠ [] := by
    intro hnil
    have hlength := congrArg List.length hnil
    rw [Text.lower_eq, Text.length_lowerIn, List.length_nil] at hlength
    exact h (List.eq_nil_of_length_eq_zero (by omega))
  simp only [callIn?, List.isEmpty_iff, List.isPrefixOf_iff_prefix]
  by_cases hline : Text.strip line.toList = []
  · rw [if_pos hline, hline, if_neg]
    exact fun hstarts => hlower (List.prefix_nil.1 hstarts)
  · rw [if_neg hline, if_neg h]

/-- On a line the two ways to look for the marker are the same if the marker agrees
with it. -/
theorem callIn?_eq_cutAt?_iff_agrees (h : registry.marker.toList ≠ []) :
    registry.callIn? line = registry.cutAt? line ↔
      Text.Agrees registry.marker.toList (Text.strip line.toList) := by
  rw [callIn?_eq h, cutAt?, Text.Agrees]
  split <;> split <;> simp_all

/-- A line that starts with the very marker is taken unless what follows continues a
word that a capital sigma ends in the marker. -/
theorem callIn?_of_append (h : registry.marker.toList ≠ [])
    (hline : Text.strip line.toList = registry.marker.toList ++ rest) :
    registry.callIn? line = some (String.ofList rest) ↔
      ¬ (Text.closesWord ['Σ'] false registry.marker.toList = true ∧
        Text.meetsCased rest = true) := by
  have hsame : (Text.lowerIn [] registry.marker.toList []).length =
      (Text.lowerIn [] registry.marker.toList rest).length := by
    rw [Text.length_lowerIn, Text.length_lowerIn]
  have hfound : Text.lower registry.marker.toList <+:
        Text.lower (registry.marker.toList ++ rest) ↔
      Text.lowerIn [] registry.marker.toList rest =
        Text.lowerIn [] registry.marker.toList [] := by
    rw [Text.lower_append, Text.lower_eq]
    constructor
    · intro hstarts
      have hle := List.prefix_of_prefix_length_le hstarts (List.prefix_append _ _)
        (Nat.le_of_eq hsame)
      exact (hle.eq_of_length hsame).symm
    · intro heq
      rw [heq]
      exact List.prefix_append _ _
  rw [callIn?_eq h, hline, List.drop_left, ite_eq_left_iff, hfound]
  have hcloses : Text.lowerIn [] registry.marker.toList rest =
        Text.lowerIn [] registry.marker.toList [] ↔
      ¬ (Text.closesWord ['Σ'] false registry.marker.toList = true ∧
        Text.meetsCased rest = true) := Text.lowerIn_eq_iff
  simpa using hcloses

/-- **When the marker is compared character by character**: on all lines exactly for a
plain marker, and among the lines that start with the very marker on those that do not
continue a word that a capital sigma ends in it. -/
theorem callIn?_eq_cutAt?_iff (registry : Registry) (marker : String)
    (h : (registry.useMarker marker).marker ≠ "") :
    ((∀ line, (registry.useMarker marker).callIn? line =
        (registry.useMarker marker).cutAt? line) ↔
      Text.IsPlain (Text.lower (registry.useMarker marker).marker.toList)) ∧
    ∀ line rest,
      Text.strip line.toList = (registry.useMarker marker).marker.toList ++ rest →
      ((registry.useMarker marker).callIn? line = some (String.ofList rest) ↔
        ¬ (Text.closesWord ['Σ'] false (registry.useMarker marker).marker.toList = true ∧
          Text.meetsCased rest = true)) := by
  have hmarker : (registry.useMarker marker).marker.toList ≠ [] :=
    fun hnil => h (String.toList_eq_nil_iff.1 hnil)
  have htrimmed : Text.IsTrimmed (registry.useMarker marker).marker.toList := by
    rw [useMarker, Text.stripped, String.toList_ofList]
    exact Text.isTrimmed_strip _
  refine ⟨⟨fun hall => ?_, fun hplain line => ?_⟩, fun line rest => callIn?_of_append hmarker⟩
  · refine Classical.byContradiction fun hplain => ?_
    obtain ⟨line, hline, hdiffers⟩ := Text.exists_not_agrees htrimmed hplain
    have hagrees := (callIn?_eq_cutAt?_iff_agrees hmarker).1 (hall (String.ofList line))
    rw [String.toList_ofList, hline] at hagrees
    exact hdiffers hagrees
  · exact (callIn?_eq_cutAt?_iff_agrees hmarker).2 (hplain.agrees _)

/-- The marker `ΑΣ` is not seen at the start of `ΑΣban bob`: there its sigma is not the
last letter of a word. -/
theorem callIn?_sigma_marker :
    (Registry.useMarker {} "ΑΣ").marker ≠ "" ∧
      Text.strip "ΑΣban bob".toList =
        (Registry.useMarker {} "ΑΣ").marker.toList ++ "ban bob".toList ∧
      (Registry.useMarker {} "ΑΣ").callIn? "ΑΣban bob" ≠ some "ban bob" ∧
      ¬ ∀ line, (Registry.useMarker {} "ΑΣ").callIn? line =
        (Registry.useMarker {} "ΑΣ").cutAt? line := by
  have hmarker : (Registry.useMarker {} "ΑΣ").marker ≠ "" := by decide
  have hline : Text.strip "ΑΣban bob".toList =
      (Registry.useMarker {} "ΑΣ").marker.toList ++ "ban bob".toList := by decide
  obtain ⟨hall, hstart⟩ := callIn?_eq_cutAt?_iff {} "ΑΣ" hmarker
  refine ⟨hmarker, hline, fun htaken => ?_, fun hsame => ?_⟩
  · rw [← String.ofList_toList (s := "ban bob")] at htaken
    exact (hstart _ _ hline).1 htaken (by decide)
  · exact absurd (hall.1 hsame).unclosed (by decide)

end Registry

end Chatline
