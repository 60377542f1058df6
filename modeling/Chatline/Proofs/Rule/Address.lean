import Chatline.Rule
import Mathlib.Data.List.Count
import Mathlib.Data.List.TakeWhile
/-!
# E-mail addresses

A text fits a pattern if it can be cut into stretches that fit the pieces one by one
(`fits_iff_cuts`), and any cut will do. The pattern of an e-mail address leaves no choice:
the at sign can stand in one place only, and the last stretch holds no dot, so it starts
behind the last one. `email_accepts_iff` says which texts the rule accepts without
speaking of cuts.
-/

namespace Chatline

/-! ## Cuts -/

/-- **That a stretch fits a piece**: it is made of what the piece allows, and neither too
short nor too long. -/
structure Piece.Takes (piece : Piece) (stretch : List Char) : Prop where
  /-- All characters are allowed. -/
  allowed : ∀ c ∈ stretch, piece.allows c = true
  /-- There are enough of them. -/
  least : piece.least ≤ stretch.length
  /-- There are not too many. -/
  most : ∀ n ∈ piece.most, stretch.length ≤ n

namespace Pattern

/-- **That a text is cut** into stretches that fit the pieces one by one. -/
inductive Cuts : Pattern → List Char → Prop
  /-- Without pieces nothing may be left. -/
  | nil : Cuts [] []
  /-- A stretch for the first piece, before those for the later ones. -/
  | cons {piece : Piece} {pieces : Pattern} {front back : List Char} :
      piece.Takes front → Cuts pieces back → Cuts (piece :: pieces) (front ++ back)

variable {piece : Piece} {pieces pattern : Pattern} {cs : List Char} {p : Char → Bool} {n : Nat}

/-- How far a run of characters goes. -/
theorem le_length_takeWhile_iff :
    n ≤ (cs.takeWhile p).length ↔ n ≤ cs.length ∧ ∀ c ∈ cs.take n, p c = true := by
  induction cs generalizing n with
  | nil => simp
  | cons c cs ih =>
    cases n with
    | zero => simp
    | succ n =>
      cases hc : p c with
      | true => simp [hc, ih]
      | false => simp [hc]

theorem reach_le_length (piece : Piece) (cs : List Char) : piece.reach cs ≤ cs.length := by
  have hrun := (List.takeWhile_sublist piece.allows (l := cs)).length_le
  rw [Piece.reach]
  cases piece.most with
  | none => exact hrun
  | some most => exact (Nat.min_le_left _ _).trans hrun

/-- The sizes that a pattern tries are those of the stretches that fit its first piece. -/
theorem takes_take_iff (hn : n ≤ cs.length) :
    piece.Takes (cs.take n) ↔ n ≤ piece.reach cs ∧ piece.least ≤ n := by
  have hlength : (cs.take n).length = n := List.length_take_of_le hn
  have hrun : n ≤ (cs.takeWhile piece.allows).length ↔ ∀ c ∈ cs.take n, piece.allows c = true := by
    rw [le_length_takeWhile_iff]
    exact and_iff_right hn
  have hreach : n ≤ piece.reach cs ↔
      (∀ c ∈ cs.take n, piece.allows c = true) ∧ ∀ m ∈ piece.most, n ≤ m := by
    rw [Piece.reach, ← hrun]
    cases piece.most with
    | none => simp
    | some most =>
      rw [Nat.le_min]
      simp
  rw [hreach]
  constructor
  · rintro ⟨hallowed, hleast, hmost⟩
    rw [hlength] at hleast hmost
    exact ⟨⟨hallowed, hmost⟩, hleast⟩
  · rintro ⟨⟨hallowed, hmost⟩, hleast⟩
    rw [← hlength] at hleast hmost
    exact ⟨hallowed, hleast, hmost⟩

/-- **A text fits a pattern** if and only if it can be cut for it. -/
theorem fits_iff_cuts : pattern.fits cs = true ↔ Cuts pattern cs := by
  induction pattern generalizing cs with
  | nil =>
    rw [fits, List.isEmpty_iff]
    constructor
    · rintro rfl
      exact .nil
    · intro h
      cases h
      rfl
  | cons piece pieces ih =>
    rw [fits, List.any_eq_true]
    constructor
    · rintro ⟨n, hn, hfits⟩
      obtain ⟨hleast, hback⟩ := (Bool.and_eq_true _ _).mp hfits
      have hreach : n ≤ piece.reach cs := Nat.lt_succ_iff.1 (List.mem_range.1 hn)
      have htakes := (takes_take_iff (hreach.trans (reach_le_length piece cs))).2
        ⟨hreach, of_decide_eq_true hleast⟩
      rw [← List.take_append_drop n cs]
      exact .cons htakes (ih.1 hback)
    · intro h
      cases h with
      | @cons _ _ front back htakes hback =>
        have hfront : (front ++ back).take front.length = front := List.take_left
        have htaken : piece.Takes ((front ++ back).take front.length) := by rwa [hfront]
        have hlength : front.length ≤ (front ++ back).length := by simp
        obtain ⟨hreach, hleast⟩ := (takes_take_iff hlength).1 htaken
        refine ⟨front.length, List.mem_range.2 (Nat.lt_succ_of_le hreach), ?_⟩
        rw [Bool.and_eq_true, List.drop_left]
        exact ⟨decide_eq_true hleast, ih.2 hback⟩

theorem cuts_cons_iff :
    Cuts (piece :: pieces) cs ↔
      ∃ front back, cs = front ++ back ∧ piece.Takes front ∧ Cuts pieces back := by
  constructor
  · intro h
    cases h with
    | cons htakes hback => exact ⟨_, _, rfl, htakes, hback⟩
  · rintro ⟨front, back, rfl, htakes, hback⟩
    exact .cons htakes hback

theorem cuts_nil_iff : Cuts [] cs ↔ cs = [] :=
  ⟨fun h => by cases h; rfl, fun h => h ▸ .nil⟩

theorem takes_one_iff {stretch : List Char} :
    (Piece.one p).Takes stretch ↔ ∃ c, stretch = [c] ∧ p c = true := by
  constructor
  · rintro ⟨hallowed, hleast, hmost⟩
    obtain ⟨c, rfl⟩ := List.length_eq_one_iff.1 (Nat.le_antisymm (hmost 1 rfl) hleast)
    exact ⟨c, rfl, hallowed c List.mem_cons_self⟩
  · rintro ⟨c, rfl, hc⟩
    refine ⟨List.forall_mem_singleton.2 hc, Nat.le_refl 1, fun n hn => ?_⟩
    cases hn
    exact Nat.le_refl 1

theorem takes_some_iff {stretch : List Char} :
    (Piece.some p).Takes stretch ↔ stretch ≠ [] ∧ ∀ c ∈ stretch, p c = true := by
  constructor
  · rintro ⟨hallowed, hleast, -⟩
    exact ⟨List.length_pos_iff.1 hleast, hallowed⟩
  · rintro ⟨hne, hallowed⟩
    exact ⟨hallowed, List.length_pos_iff.2 hne, fun n hn => by cases hn⟩

end Pattern

/-! ## Addresses -/

namespace Address

/-- A letter: an ASCII letter of either case, or one of the four characters beside them that
are such a letter when case is ignored. -/
def IsLetter (c : Char) : Prop :=
  'A' ≤ c ∧ c ≤ 'Z' ∨ 'a' ≤ c ∧ c ≤ 'z' ∨ c.toNat ∈ [0x130, 0x131, 0x17F, 0x212A]

/-- A digit. -/
def IsDigit (c : Char) : Prop := '0' ≤ c ∧ c ≤ '9'

/-- **What may stand before the at sign.** -/
structure IsMailbox (cs : List Char) : Prop where
  /-- There is something. -/
  nonempty : cs ≠ []
  /-- It is made of letters, digits and five marks. -/
  made : ∀ c ∈ cs, IsLetter c ∨ IsDigit c ∨ c ∈ ['.', '_', '%', '+', '-']

/-- **What may stand behind the at sign and before the last dot.** -/
structure IsHost (cs : List Char) : Prop where
  /-- There are at least two characters. -/
  long : 2 ≤ cs.length
  /-- The first one is a letter. -/
  head : ∀ c ∈ cs.head?, IsLetter c
  /-- All are letters, digits, dots and hyphens. -/
  made : ∀ c ∈ cs, IsLetter c ∨ IsDigit c ∨ c ∈ ['.', '-']

/-- **What may stand behind the last dot**: two to 26 letters. -/
structure IsLastLabel (cs : List Char) : Prop where
  /-- There are not too few. -/
  long : 2 ≤ cs.length
  /-- There are not too many. -/
  short : cs.length ≤ 26
  /-- All are letters. -/
  made : ∀ c ∈ cs, IsLetter c

/-- **What may stand behind the at sign**, parted at its last dot. -/
def IsDomainName (cs : List Char) : Prop :=
  ∃ host top, cs = host ++ '.' :: top ∧ '.' ∉ top ∧ IsHost host ∧ IsLastLabel top

end Address

open Address in
/-- **An address**: its one at sign parts a mailbox from a domain. -/
def IsAddress (cs : List Char) : Prop :=
  cs.count '@' = 1 ∧ ∃ mailbox domain, cs = mailbox ++ '@' :: domain ∧ IsMailbox mailbox ∧
    IsDomainName domain

namespace Address

variable {c : Char} {cs mailbox domain host top : List Char}

theorem isLetter_iff : IsLetter c ↔ Pattern.isCaselessLetter c = true := by
  have hother : c.toNat ∈ [0x130, 0x131, 0x17F, 0x212A] ↔
      c = 'İ' ∨ c = 'ı' ∨ c = 'ſ' ∨ c = '\u212A' := by
    simp only [List.mem_cons, List.not_mem_nil, or_false, ← Char.toNat_inj]
    rfl
  simp only [IsLetter, hother, Pattern.isCaselessLetter, Pattern.isLetter, Bool.or_eq_true,
    Bool.and_eq_true, decide_eq_true_eq, beq_iff_eq]
  tauto

theorem isDigit_iff : IsDigit c ↔ Pattern.isAsciiDigit c = true := by
  simp only [IsDigit, Pattern.isAsciiDigit, Bool.and_eq_true, decide_eq_true_eq]

/-- Letters, digits and some marks, as a class of the pattern. -/
theorem isMade_iff (marks : List Char) :
    (IsLetter c ∨ IsDigit c ∨ c ∈ marks) ↔
      (Pattern.isCaselessLetter c || Pattern.isAsciiDigit c || marks.contains c) = true := by
  rw [isLetter_iff, isDigit_iff, ← List.contains_iff_mem, Bool.or_eq_true, Bool.or_eq_true,
    or_assoc]

theorem isMailbox_iff : IsMailbox cs ↔ cs ≠ [] ∧ ∀ c ∈ cs, Pattern.isMailbox c = true :=
  ⟨fun h => ⟨h.nonempty, fun c hc => (isMade_iff _).1 (h.made c hc)⟩,
    fun h => ⟨h.1, fun c hc => (isMade_iff _).2 (h.2 c hc)⟩⟩

/-- A host is a letter with more behind it. -/
theorem isHost_iff :
    IsHost cs ↔ ∃ first later, cs = first :: later ∧ Pattern.isCaselessLetter first = true ∧
      later ≠ [] ∧ ∀ c ∈ later, Pattern.isDomain c = true := by
  constructor
  · intro h
    match cs, h with
    | [], h => exact absurd h.long (by simp)
    | [_], h => exact absurd h.long (by simp)
    | first :: next :: later, h =>
      have hfirst : Pattern.isCaselessLetter first = true := isLetter_iff.1 (h.head first rfl)
      refine ⟨first, next :: later, rfl, hfirst, List.cons_ne_nil _ _, ?_⟩
      exact fun c hc => (isMade_iff _).1 (h.made c (List.mem_cons_of_mem _ hc))
  · rintro ⟨first, later, rfl, hfirst, hne, hlater⟩
    have hletter : IsLetter first := isLetter_iff.2 hfirst
    refine ⟨?_, ?_, List.forall_mem_cons.2 ⟨Or.inl hletter, fun c hc => ?_⟩⟩
    · have hpos := List.length_pos_iff.2 hne
      rw [List.length_cons]
      omega
    · rintro c ⟨⟩
      exact hletter
    · exact (isMade_iff _).2 (hlater c hc)

/-- No letter is a dot, so the last stretch of an address starts behind the last dot. -/
theorem IsLastLabel.dot_notMem (h : IsLastLabel top) : '.' ∉ top := fun hdot =>
  absurd (isLetter_iff.1 (h.made _ hdot)) (by decide)

theorem IsMailbox.at_notMem (h : IsMailbox mailbox) : '@' ∉ mailbox := fun hat =>
  absurd ((isMailbox_iff.1 h).2 _ hat) (by decide)

theorem IsDomainName.at_notMem (h : IsDomainName domain) : '@' ∉ domain := by
  obtain ⟨host, top, rfl, -, hhost, htop⟩ := h
  rw [List.mem_append, List.mem_cons]
  rintro (hat | hat | hat)
  · exact absurd ((isMade_iff _).1 (hhost.made _ hat)) (by decide)
  · exact absurd hat (by decide)
  · exact absurd (isLetter_iff.1 (htop.made _ hat)) (by decide)

end Address

namespace Pattern

open Address

/-- **What the pattern of an address cuts a text into.** -/
theorem cuts_mailAddress_iff {cs : List Char} :
    Cuts mailAddress cs ↔
      ∃ mailbox domain, cs = mailbox ++ '@' :: domain ∧ IsMailbox mailbox ∧
        IsDomainName domain := by
  simp only [mailAddress, cuts_cons_iff, cuts_nil_iff, takes_one_iff, takes_some_iff]
  constructor
  · rintro ⟨mailbox, _, rfl, hmailbox, _, _, rfl, ⟨mark, rfl, hmark⟩, _, _, rfl,
      ⟨first, rfl, hfirst⟩, later, _, rfl, hlater, _, _, rfl, ⟨dot, rfl, hdot⟩, top, _, rfl,
      htop, rfl⟩
    obtain rfl := beq_iff_eq.1 hmark
    obtain rfl := beq_iff_eq.1 hdot
    have htop' : IsLastLabel top :=
      ⟨htop.least, htop.most 26 rfl, fun c hc => isLetter_iff.2 (htop.allowed c hc)⟩
    refine ⟨mailbox, first :: later ++ '.' :: top, by simp, isMailbox_iff.2 hmailbox,
      first :: later, top, rfl, htop'.dot_notMem, isHost_iff.2 ?_, htop'⟩
    exact ⟨first, later, rfl, hfirst, hlater⟩
  · rintro ⟨mailbox, _, rfl, hmailbox, host, top, rfl, -, hhost, htop⟩
    obtain ⟨first, later, rfl, hfirst, hlater⟩ := isHost_iff.1 hhost
    refine ⟨mailbox, _, rfl, isMailbox_iff.1 hmailbox, ['@'], _, rfl, ⟨_, rfl, rfl⟩, [first],
      later ++ '.' :: top, rfl, ⟨first, rfl, hfirst⟩, later, _, rfl, hlater, ['.'], top, rfl,
      ⟨_, rfl, rfl⟩, top, [], by simp, ⟨fun c hc => isLetter_iff.1 (htop.made c hc), htop.long, ?_⟩,
      rfl⟩
    rintro n ⟨⟩
    exact htop.short

end Pattern

/-- **Which texts are e-mail addresses.** The rule accepts a text if and only if it has one at
sign, with a mailbox before it and a domain behind it; any other text it refuses. -/
theorem Rule.email_accepts_iff (s : String) :
    (Rule.email.accepts s = .ok true ↔ IsAddress s.toList) ∧
      (Rule.email.accepts s = .ok false ↔ ¬ IsAddress s.toList) := by
  have haddress : IsAddress s.toList ↔ Pattern.mailAddress.fits s.toList = true := by
    rw [Pattern.fits_iff_cuts, Pattern.cuts_mailAddress_iff]
    refine ⟨fun h => h.2, fun h => ⟨?_, h⟩⟩
    obtain ⟨mailbox, domain, heq, hmailbox, hdomain⟩ := h
    rw [heq, List.count_append, List.count_cons_self, List.count_eq_zero.2 hmailbox.at_notMem,
      List.count_eq_zero.2 hdomain.at_notMem]
  have haccepts : Rule.email.accepts s = .ok (Pattern.mailAddress.fits s.toList) := rfl
  rw [haddress, haccepts, Except.ok.injEq, Except.ok.injEq, Bool.not_eq_true]
  exact ⟨Iff.rfl, Iff.rfl⟩

/-- The domain of an address goes to the last dot, however many there are. -/
example : Rule.email.accepts "a.b@mail.example.org" = .ok true ∧
    Rule.email.accepts "a.b@mail.example.c" = .ok false := ⟨rfl, rfl⟩

end Chatline
