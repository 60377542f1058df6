import Chatline.Text.Blank
import Chatline.Text.Case
/-!
# What lower case keeps

Lowering a text replaces each character by one, or by two for `İ`, and only the
capital sigma looks at what stands around it. What comes out is low: lowering it
again changes nothing (`lower_lower`), wherever it stands. A lowered character has
case, is skipped and is blank exactly if the character that it came from is, so
the sense of "end of a word" survives lowering (`meetsCased_reverse_lowerIn`).

The facts about single characters are read off the tables. They are checked run by
run against whole intervals, not code point by code point.
-/

namespace Chatline.Text

/-! ## Intervals of code points -/

section Ranges

variable {ranges : List (Nat × Nat)} {runs : List Run} {a b n m : Nat}

/-- Whether all code points from `a` to `b` lie in one of the intervals. -/
def covers : List (Nat × Nat) → Nat → Nat → Bool
  | [], _, _ => false
  | (lo, hi) :: rest, a, b => lo.ble a && (b.ble hi || (hi.blt a && covers rest a b))

/-- Whether no code point from `a` to `b` lies in an interval. -/
def misses : List (Nat × Nat) → Nat → Nat → Bool
  | [], _, _ => true
  | (lo, hi) :: rest, a, b => b.blt lo || (hi.blt a && misses rest a b)

theorem inRanges_of_covers (h : covers ranges a b = true) (ha : a ≤ n) (hb : n ≤ b) :
    inRanges ranges n = true := by
  induction ranges with
  | nil => cases h
  | cons range rest ih =>
    obtain ⟨lo, hi⟩ := range
    simp only [covers, Bool.and_eq_true, Bool.or_eq_true, Nat.ble_eq, Nat.blt_eq] at h
    rw [inRanges, if_neg (by omega)]
    rcases h.2 with hle | ⟨-, hrest⟩
    · rw [decide_eq_true (by omega), Bool.true_or]
    · rw [ih hrest, Bool.or_true]

theorem inRanges_of_misses (h : misses ranges a b = true) (ha : a ≤ n) (hb : n ≤ b) :
    inRanges ranges n = false := by
  induction ranges with
  | nil => rfl
  | cons range rest ih =>
    obtain ⟨lo, hi⟩ := range
    simp only [misses, Bool.and_eq_true, Bool.or_eq_true, Nat.blt_eq] at h
    rw [inRanges]
    rcases h with hlt | ⟨hgt, hrest⟩
    · rw [if_pos (by omega)]
    · split
      · rfl
      · rw [decide_eq_false (by omega), ih hrest, Bool.or_self]

/-- That a run maps a code point. -/
def Run.Maps (r : Run) (n : Nat) : Prop := r.first ≤ n ∧ n ≤ r.last ∧ (n - r.first) % r.step = 0

/-- The image of a code point comes from a run that maps it. -/
theorem imageOf_eq_some (h : imageOf runs n = some m) :
    ∃ r ∈ runs, r.Maps n ∧ m = r.image + (n - r.first) := by
  induction runs with
  | nil => cases h
  | cons r rest ih =>
    rw [imageOf] at h
    split at h
    · cases h
    · split at h
      · next hge hmaps =>
        cases h
        rw [Bool.and_eq_true, decide_eq_true_eq, beq_iff_eq] at hmaps
        exact ⟨r, List.mem_cons_self, ⟨by omega, hmaps⟩, rfl⟩
      · obtain ⟨q, hq, hrest⟩ := ih h
        exact ⟨q, List.mem_cons_of_mem _ hq, hrest⟩

theorem imageOf_eq_none (h : ∀ r ∈ runs, ¬ r.Maps n) : imageOf runs n = none := by
  cases himage : imageOf runs n with
  | none => rfl
  | some m =>
    obtain ⟨r, hr, hmaps, -⟩ := imageOf_eq_some himage
    exact absurd hmaps (h r hr)

end Ranges

/-! ## The table of lower-case images -/

namespace Run

/-- Whether every code point as far after `a` as one that the run maps is after its
first has case. The interval is looked at first, and the code points one by one only
where it is not all cased. -/
def casedFrom (r : Run) (a : Nat) : Bool :=
  covers casedRanges a (a + (r.last - r.first)) ||
    (List.range (r.last - r.first + 1)).all fun k =>
      !(k % r.step).beq 0 || covers casedRanges (a + k) (a + k)

/-- Code points that no run touches: the blanks, the surrogates, and `İ`. -/
def untouched : List (Nat × Nat) :=
  [(0, 0x40), (0x7B, 0xBF), (0x130, 0x130), (0x1680, 0x1680), (0x2000, 0x205F), (0x3000, 0x3000),
   (0xD800, 0xDFFF)]

/-- Whether the code points of a run, taken from `a` on, are letters: characters that
have case, are not skipped and are not among the untouched. -/
def lettersFrom (r : Run) (a : Nat) : Bool :=
  let b := a + (r.last - r.first)
  r.casedFrom a && misses ignorableRanges a b && misses untouched a b && b.blt 0x110000

/-- Whether a run maps no image of another. -/
def spares (r q : Run) : Bool :=
  (q.image + (q.last - q.first)).blt r.first || r.last.blt q.image ||
    (r.step.beq 2 && (q.step.beq 2 || q.first.beq q.last) && ((q.image + r.first) % 2).beq 1)

variable {r q : Run} {a n : Nat}

theorem inRanges_of_casedFrom (h : r.casedFrom a = true) (hn : r.Maps n) :
    inRanges casedRanges (a + (n - r.first)) = true := by
  obtain ⟨hfirst, hlast, hstep⟩ := hn
  rcases Bool.or_eq_true_iff.1 h with hall | hpoints
  · exact inRanges_of_covers hall (by omega) (by omega)
  · have hpoint := List.all_eq_true.1 hpoints (n - r.first) (List.mem_range.2 (by omega))
    rw [hstep] at hpoint
    exact inRanges_of_covers hpoint (Nat.le_refl _) (Nat.le_refl _)

/-- A run that spares the images of another maps none of them. -/
theorem not_maps_of_spares (h : r.spares q = true) (hn : q.Maps n) :
    ¬ r.Maps (q.image + (n - q.first)) := by
  obtain ⟨hfirst, hlast, hstep⟩ := hn
  rintro ⟨hfirst', hlast', hstep'⟩
  simp only [spares, Bool.or_eq_true, Bool.and_eq_true, Nat.blt_eq, Nat.beq_eq] at h
  rcases h with (habove | hbelow) | ⟨⟨hr, hq⟩, hodd⟩
  · omega
  · omega
  · rw [hr] at hstep'
    rcases hq with hq | hq
    · rw [hq] at hstep
      omega
    · omega

end Run

theorem lowerRuns_letters :
    (lowerRuns.all fun r => r.lettersFrom r.first && r.lettersFrom r.image) = true := by
  decide +kernel

theorem lowerRuns_spare : (lowerRuns.all fun r => lowerRuns.all r.spares) = true := by
  decide +kernel

/-- **A letter**: a character that has case, is not skipped and is not blank. -/
structure IsLetter (c : Char) : Prop where
  /-- It has case. -/
  cased : isCased c = true
  /-- It is not skipped. -/
  kept : isIgnorable c = false
  /-- It is not blank. -/
  dark : isBlank c = false

section Table

variable {r : Run} {a n : Nat} {c d : Char}

/-- The blanks are among the untouched code points. -/
theorem isBlank_eq_false (h : inRanges Run.untouched c.toNat = false) : isBlank c = false := by
  simp only [Run.untouched, inRanges] at h
  simp only [isBlank, Bool.or_eq_false_iff, Bool.and_eq_false_iff, beq_eq_false_iff_ne]
  grind

theorem isValidChar_of_touched (h : inRanges Run.untouched n = false) (hn : n < 0x110000) :
    n.isValidChar := by
  simp only [Run.untouched, inRanges] at h
  rw [Nat.isValidChar]
  grind

/-- What a run maps, and what it maps to, are letters. -/
theorem isLetter_of_maps (h : r.lettersFrom a = true) (hn : r.Maps n) :
    (Char.ofNat (a + (n - r.first))).toNat = a + (n - r.first) ∧
      IsLetter (Char.ofNat (a + (n - r.first))) ∧ Char.ofNat (a + (n - r.first)) ≠ 'İ' := by
  have hlast := hn.2.1
  simp only [Run.lettersFrom, Bool.and_eq_true, Nat.blt_eq] at h
  obtain ⟨⟨⟨hcased, hignorable⟩, huntouched⟩, hlt⟩ := h
  have htouched := inRanges_of_misses huntouched (n := a + (n - r.first)) (by omega) (by omega)
  have hkept := inRanges_of_misses hignorable (n := a + (n - r.first)) (by omega) (by omega)
  have hvalid := isValidChar_of_touched htouched (by omega)
  have hnat : (Char.ofNat (a + (n - r.first))).toNat = a + (n - r.first) := by
    rw [Char.ofNat, dif_pos hvalid]
    rfl
  refine ⟨hnat, ⟨?_, ?_, ?_⟩, ?_⟩
  · rw [isCased, hnat]
    exact Run.inRanges_of_casedFrom hcased hn
  · rw [isIgnorable, hnat]
    exact hkept
  · rw [← hnat] at htouched
    exact isBlank_eq_false htouched
  · rintro hdotted
    rw [← hnat, hdotted] at htouched
    cases htouched

end Table

/-! ## Lowering one character -/

/-- **A low character**: one that lower case leaves alone wherever it stands. -/
def IsLow (c : Char) : Prop := c ≠ 'Σ' ∧ lowerChar c = [c]

/-- **A lowered form of a character**: it is low, and a word ends at it exactly if it
ends at the character. -/
structure IsLowered (c d : Char) : Prop where
  /-- It is low. -/
  low : IsLow d
  /-- It has case if the character has. -/
  cased : isCased d = isCased c
  /-- It is skipped if the character is. -/
  ignorable : isIgnorable d = isIgnorable c
  /-- It is blank if the character is. -/
  blank : isBlank d = isBlank c

section Characters

variable {c d : Char} {before after : List Char}

/-- Letters that are low are lowered forms of letters. -/
theorem IsLetter.isLowered (hc : IsLetter c) (hd : IsLetter d) (hlow : IsLow d) :
    IsLowered c d :=
  ⟨hlow, hd.cased.trans hc.cased.symm, hd.kept.trans hc.kept.symm, hd.dark.trans hc.dark.symm⟩

/-- What a character outside the table and other than the two special capitals is
lowered to is itself. -/
theorem isLow_of_unmapped (hsigma : c ≠ 'Σ') (hdotted : c ≠ 'İ')
    (h : imageOf lowerRuns c.toNat = none) : IsLow c := by
  refine ⟨hsigma, ?_⟩
  rw [lowerChar, if_neg hdotted, h]

/-- What the table maps is a letter. -/
theorem isLetter_of_imageOf {m : Nat} (h : imageOf lowerRuns c.toNat = some m) : IsLetter c := by
  obtain ⟨r, hr, hmaps, -⟩ := imageOf_eq_some h
  have hletters := List.all_eq_true.1 lowerRuns_letters r hr
  rw [Bool.and_eq_true] at hletters
  obtain ⟨-, hc, -⟩ := isLetter_of_maps hletters.1 hmaps
  have hself : r.first + (c.toNat - r.first) = c.toNat := by
    have := hmaps.1
    omega
  rwa [hself, Char.ofNat_toNat] at hc

/-- So is what it maps to, which is low. -/
theorem isLowered_image {m : Nat} (h : imageOf lowerRuns c.toNat = some m) :
    IsLowered c (Char.ofNat m) := by
  have hc := isLetter_of_imageOf h
  obtain ⟨r, hr, hmaps, rfl⟩ := imageOf_eq_some h
  have hletters := List.all_eq_true.1 lowerRuns_letters r hr
  rw [Bool.and_eq_true] at hletters
  obtain ⟨hnat, hd, hdotted⟩ := isLetter_of_maps hletters.2 hmaps
  -- no run maps the image, in particular not the one that the capital sigma is in
  have hunmapped : imageOf lowerRuns (Char.ofNat (r.image + (c.toNat - r.first))).toNat = none := by
    rw [hnat]
    refine imageOf_eq_none fun q hq => ?_
    have hspares := List.all_eq_true.1 (List.all_eq_true.1 lowerRuns_spare q hq) r hr
    exact Run.not_maps_of_spares hspares hmaps
  refine hc.isLowered hd (isLow_of_unmapped ?_ hdotted hunmapped)
  intro hsigma
  rw [hsigma] at hunmapped
  exact absurd hunmapped (by decide)

/-- **Lowering a character** other than `İ` gives one lowered form of it, whatever
stands around it. -/
theorem lowerBetween_eq (hdotted : c ≠ 'İ') (before after : List Char) :
    ∃ d, lowerBetween before c after = [d] ∧ IsLowered c d := by
  by_cases hsigma : c = 'Σ'
  · subst hsigma
    rw [lowerBetween, if_pos rfl]
    split
    · exact ⟨'ς', rfl, ⟨by decide, by decide⟩, by decide, by decide, by decide⟩
    · exact ⟨'σ', rfl, ⟨by decide, by decide⟩, by decide, by decide, by decide⟩
  · rw [lowerBetween, if_neg hsigma]
    cases himage : imageOf lowerRuns c.toNat with
    | some m =>
      refine ⟨Char.ofNat m, ?_, isLowered_image himage⟩
      rw [lowerChar, if_neg hdotted, himage]
    | none =>
      have hlow := isLow_of_unmapped hsigma hdotted himage
      exact ⟨c, hlow.2, hlow, rfl, rfl, rfl⟩

/-- `İ` is lowered to an `i` and the dot that it has above. -/
theorem lowerBetween_dotted (before after : List Char) :
    lowerBetween before 'İ' after = ['i', '\u0307'] := by
  rw [lowerBetween, if_neg (by decide), lowerChar, if_pos rfl]

theorem IsLow.lowerBetween_eq (h : IsLow c) (before after : List Char) :
    lowerBetween before c after = [c] := by
  rw [lowerBetween, if_neg h.1, h.2]

/-- Characters without case stay as they are. -/
theorem lowerBetween_of_uncased (h : isCased c = false) (before after : List Char) :
    lowerBetween before c after = [c] := by
  have hcapital : isCased 'Σ' = true ∧ isCased 'İ' = true := by decide
  have hsigma : c ≠ 'Σ' := by
    rintro rfl
    simp [hcapital] at h
  have hdotted : c ≠ 'İ' := by
    rintro rfl
    simp [hcapital] at h
  cases himage : imageOf lowerRuns c.toNat with
  | none => exact (isLow_of_unmapped hsigma hdotted himage).lowerBetween_eq before after
  | some m =>
    have hcased := (isLetter_of_imageOf himage).cased
    simp [h] at hcased

end Characters

/-! ## Lowering a text -/

/-- The lower-case form of a text between two others; `before` is read backwards. -/
def lowerIn (before cs after : List Char) : List Char :=
  match cs with
  | [] => []
  | c :: cs => lowerBetween before c (cs ++ after) ++ lowerIn (c :: before) cs after

section Texts

variable {before cs ds after : List Char} {c d : Char}

/-- Lowering two texts one after the other, each lowered next to the other. -/
theorem lowerFrom_append :
    lowerFrom before (cs ++ ds) =
      lowerIn before cs ds ++ lowerFrom (cs.reverse ++ before) ds := by
  induction cs generalizing before with
  | nil => rfl
  | cons c cs ih =>
    rw [List.cons_append, lowerFrom, ih, lowerIn, List.append_assoc, List.reverse_cons,
      List.append_assoc, List.singleton_append]

theorem lowerFrom_eq (before cs : List Char) : lowerFrom before cs = lowerIn before cs [] := by
  have h : lowerFrom before (cs ++ []) =
      lowerIn before cs [] ++ lowerFrom (cs.reverse ++ before) [] := lowerFrom_append
  rwa [List.append_nil, lowerFrom, List.append_nil] at h

theorem lower_eq (cs : List Char) : lower cs = lowerIn [] cs [] := lowerFrom_eq [] cs

theorem lower_append (cs ds : List Char) :
    lower (cs ++ ds) = lowerIn [] cs ds ++ lowerIn cs.reverse ds [] := by
  rw [lower, lowerFrom_append, List.append_nil, lowerFrom_eq]

/-- Between two texts the parts of a text are lowered next to each other. -/
theorem lowerIn_append :
    lowerIn before (cs ++ ds) after =
      lowerIn before cs (ds ++ after) ++ lowerIn (cs.reverse ++ before) ds after := by
  induction cs generalizing before with
  | nil => rfl
  | cons c cs ih =>
    rw [List.cons_append, lowerIn, ih, lowerIn, List.append_assoc, List.append_assoc,
      List.reverse_cons, List.append_assoc, List.singleton_append]

/-- **Each character of a lowered text** is low, and is blank only if one in the text is. -/
theorem of_mem_lowerIn (h : d ∈ lowerIn before cs after) :
    IsLow d ∧ (isBlank d = true → ∃ c ∈ cs, isBlank c = true) := by
  induction cs generalizing before with
  | nil => cases h
  | cons c cs ih =>
    rcases List.mem_append.1 h with hhead | htail
    · by_cases hdotted : c = 'İ'
      · rw [hdotted, lowerBetween_dotted] at hhead
        rcases List.mem_cons.1 hhead with rfl | hdot
        · exact ⟨⟨by decide, by decide⟩, fun hblank => absurd hblank (by decide)⟩
        · rw [List.mem_singleton.1 hdot]
          exact ⟨⟨by decide, by decide⟩, fun hblank => absurd hblank (by decide)⟩
      · obtain ⟨e, heq, he⟩ := lowerBetween_eq hdotted before (cs ++ after)
        rw [heq, List.mem_singleton] at hhead
        subst hhead
        exact ⟨he.low, fun hblank => ⟨c, List.mem_cons_self, he.blank.symm.trans hblank⟩⟩
    · obtain ⟨hlow, hblank⟩ := ih htail
      refine ⟨hlow, fun h => ?_⟩
      obtain ⟨b, hb, hdark⟩ := hblank h
      exact ⟨b, List.mem_cons_of_mem _ hb, hdark⟩

/-- **Lowering brings no character without case** but the dot that `İ` has above. -/
theorem mem_of_mem_lowerIn (h : d ∈ lowerIn before cs after) (huncased : isCased d = false)
    (hdot : d ≠ '\u0307') : d ∈ cs := by
  induction cs generalizing before with
  | nil => cases h
  | cons c cs ih =>
    rcases List.mem_append.1 h with hhead | htail
    · by_cases hdotted : c = 'İ'
      · have hi : isCased 'i' = true := by decide
        rw [hdotted, lowerBetween_dotted] at hhead
        rcases List.mem_cons.1 hhead with rfl | hmem
        · simp [hi] at huncased
        · exact absurd (List.mem_singleton.1 hmem) hdot
      · obtain ⟨e, heq, he⟩ := lowerBetween_eq hdotted before (cs ++ after)
        rw [heq, List.mem_singleton] at hhead
        subst hhead
        -- the character that was lowered has no case either, so it is this one
        have hsame := lowerBetween_of_uncased (he.cased.symm.trans huncased) before (cs ++ after)
        rw [heq] at hsame
        simp [(List.cons.inj hsame).1]
    · exact List.mem_cons_of_mem _ (ih htail)

/-- A low text stays as it is. -/
theorem lowerIn_of_isLow (h : ∀ c ∈ cs, IsLow c) : lowerIn before cs after = cs := by
  induction cs generalizing before with
  | nil => rfl
  | cons c cs ih =>
    obtain ⟨hc, hcs⟩ := List.forall_mem_cons.1 h
    rw [lowerIn, hc.lowerBetween_eq, ih hcs, List.singleton_append]

/-- **Lowering twice is lowering once.** -/
theorem lower_lower (cs : List Char) : lower (lower cs) = lower cs := by
  rw [lower_eq cs, lower_eq (lowerIn [] cs [])]
  exact lowerIn_of_isLow fun d hd => (of_mem_lowerIn hd).1

/-- How long a lowered text is: one longer for each `İ`. -/
theorem length_lowerIn : (lowerIn before cs after).length = cs.length + cs.count 'İ' := by
  induction cs generalizing before with
  | nil => rfl
  | cons c cs ih =>
    rw [lowerIn, List.length_append, ih, List.length_cons, List.count_cons]
    by_cases hdotted : c = 'İ'
    · rw [hdotted, lowerBetween_dotted, if_pos (by decide), List.length_cons, List.length_singleton]
      omega
    · obtain ⟨d, heq, -⟩ := lowerBetween_eq hdotted before (cs ++ after)
      rw [heq, if_neg (by simpa using hdotted), List.length_singleton]
      omega

/-- A text is not lost when it is lowered. -/
theorem lower_ne_nil (h : cs ≠ []) : lower cs ≠ [] := by
  intro hnil
  have hlength : (lower cs).length = cs.length + cs.count 'İ' := by rw [lower_eq, length_lowerIn]
  rw [hnil, List.length_nil] at hlength
  exact h (List.length_eq_zero_iff.1 (by omega))

/-- **No marks come in** when a text is lowered, if they have no case. -/
theorem contains_of_mem_lower {marks : List Char}
    (hmarks : marks.all (fun c => !isCased c && c != '\u0307') = true)
    (h : ∀ c ∈ cs, marks.contains c = false) : ∀ c ∈ lower cs, marks.contains c = false := by
  intro c hc
  rw [lower_eq] at hc
  cases hmark : marks.contains c with
  | false => rfl
  | true =>
    have hplain := List.all_eq_true.1 hmarks c (List.contains_iff_mem.1 hmark)
    rw [Bool.and_eq_true, Bool.not_eq_true', bne_iff_ne] at hplain
    exact hmark.symm.trans (h c (mem_of_mem_lowerIn hc hplain.1 hplain.2))

/-- Nor do blanks. -/
theorem isBlank_of_mem_lower (h : ∀ c ∈ cs, isBlank c = false) :
    ∀ c ∈ lower cs, isBlank c = false := by
  intro c hc
  rw [lower_eq] at hc
  cases hblank : isBlank c with
  | false => rfl
  | true =>
    obtain ⟨d, hd, hdark⟩ := (of_mem_lowerIn hc).2 hblank
    exact hdark.symm.trans (h d hd)

end Texts

/-! ## The end of a word -/

section Words

variable {before cs ds after rest : List Char} {c d : Char}

theorem meetsCased_cons :
    meetsCased (c :: cs) = if isIgnorable c then meetsCased cs else isCased c := by
  by_cases h : isIgnorable c = true
  · rw [if_pos h, meetsCased, List.dropWhile_cons_of_pos h, meetsCased]
  · rw [if_neg h, meetsCased, List.dropWhile_cons_of_neg h]

/-- Where one text follows another, the second counts only if all of the first is
skipped. -/
theorem meetsCased_append (cs ds : List Char) :
    meetsCased (cs ++ ds) = if cs.all isIgnorable then meetsCased ds else meetsCased cs := by
  induction cs with
  | nil => rfl
  | cons c cs ih =>
    rw [List.cons_append, meetsCased_cons, meetsCased_cons, ih]
    by_cases hc : isIgnorable c = true
    · simp [hc]
    · simp [hc]

/-- **Lowering keeps what is met**: whether a cased character is met, going backwards,
is the same in the lowered text. -/
theorem meetsCased_reverse_lowerIn :
    meetsCased ((lowerIn before cs after).reverse ++ rest) = meetsCased (cs.reverse ++ rest) := by
  induction cs generalizing before rest with
  | nil => rfl
  | cons c cs ih =>
    rw [lowerIn, List.reverse_append, List.reverse_cons, List.append_assoc, List.append_assoc, ih,
      meetsCased_append, meetsCased_append _ ([c] ++ rest)]
    congr 1
    by_cases hdotted : c = 'İ'
    · subst hdotted
      rw [lowerBetween_dotted]
      have hdot : isIgnorable '\u0307' = true := by decide
      have hi : isIgnorable 'i' = false ∧ isCased 'i' = true := by decide
      have hI : isIgnorable 'İ' = false ∧ isCased 'İ' = true := by decide
      simp [meetsCased_cons, hdot, hi, hI]
    · obtain ⟨d, heq, hd⟩ := lowerBetween_eq hdotted before (cs ++ after)
      simp [heq, meetsCased_cons, hd.ignorable, hd.cased]

end Words

end Chatline.Text
