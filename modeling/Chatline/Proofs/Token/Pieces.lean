import Chatline.Proofs.Text.Runs
import Chatline.Proofs.Text.Stripping
import Chatline.Token
/-!
# The pieces of a text

`Token.cut` reads a text from left to right; a cut into pieces says what it reads.
The pieces are runs of blanks, words in quotes and plain words, one after the other.
Which of the two a word is depends on what comes after it, however far: a quote at
its start is closed by the next quote, and only if a word may end there. Every text
is cut in one way, the tokens are those of its pieces, and nothing but blanks and
quotes is lost (`tokenize_pieces`).
-/

namespace Chatline.Token

variable {cs ds inner rest word before after trail a b : List Char} {c : Char}

/-! ## Where words start and end -/

/-- That a word may start after some text: at its start, or after a blank. -/
def StartsWord (before : List Char) : Prop := ∀ c ∈ before.getLast?, Text.isBlank c = true

/-- That a word may end before some text: at its end, or before a blank. -/
def EndsWord (after : List Char) : Prop := ∀ c ∈ after.head?, Text.isBlank c = true

/-- That the next quote in a text is where a word may end. -/
def Closes (cs : List Char) : Prop :=
  ∃ inner rest, cs = inner ++ '"' :: rest ∧ '"' ∉ inner ∧ EndsWord rest

/-- That a text starts with a quote which the next quote closes. -/
def Opens (cs : List Char) : Prop := ∃ ds, cs = '"' :: ds ∧ Closes ds

theorem atBoundary_iff : atBoundary cs = true ↔ EndsWord cs := by
  cases cs with
  | nil => simp [atBoundary, EndsWord]
  | cons c cs => simp [atBoundary, EndsWord]

theorem endsWord_nil : EndsWord [] := by simp [EndsWord]

theorem endsWord_cons : EndsWord (c :: cs) ↔ Text.isBlank c = true := by simp [EndsWord]

/-- Whether a word may end before a text is told by its first character. -/
theorem EndsWord.append (ha : EndsWord a) (hb : EndsWord b) : EndsWord (a ++ b) := by
  cases a with
  | nil => exact hb
  | cons c a => exact endsWord_cons.2 (endsWord_cons.1 ha)

theorem endsWord_of_blanks (h : ∀ c ∈ cs, Text.isBlank c = true) : EndsWord cs :=
  fun c hc => h c (List.mem_of_mem_head? hc)

theorem isBlank_quote : Text.isBlank '"' = false := by decide

theorem quote_notMem_of_blanks (h : ∀ c ∈ cs, Text.isBlank c = true) : '"' ∉ cs := by
  intro hmem
  have hquote : Text.isBlank '"' = true := h _ hmem
  rw [isBlank_quote] at hquote
  cases hquote

/-! ## The next quote -/

theorem untilQuote_append (h : '"' ∉ inner) :
    untilQuote (inner ++ '"' :: rest) = some (inner, rest) := by
  induction inner with
  | nil => rw [List.nil_append, untilQuote, if_pos rfl]
  | cons c inner ih =>
    rw [List.mem_cons, not_or] at h
    obtain ⟨hc, hinner⟩ := h
    rw [List.cons_append, untilQuote, if_neg (Ne.symm hc), ih hinner]
    rfl

theorem of_untilQuote (h : untilQuote cs = some (inner, rest)) :
    cs = inner ++ '"' :: rest ∧ '"' ∉ inner := by
  induction cs generalizing inner with
  | nil => cases h
  | cons c cs ih =>
    rw [untilQuote] at h
    split at h
    · next hc =>
      cases h
      exact ⟨by rw [hc]; rfl, List.not_mem_nil⟩
    · next hc =>
      obtain ⟨⟨inner', rest'⟩, hcs, heq⟩ := Option.map_eq_some_iff.1 h
      cases heq
      obtain ⟨rfl, hinner⟩ := ih hcs
      refine ⟨rfl, ?_⟩
      rw [List.mem_cons, not_or]
      exact ⟨Ne.symm hc, hinner⟩

/-- **What follows an opening quote** is read up to the next quote if a word may end
after that. -/
theorem quoted?_eq_some_iff :
    quoted? cs = some (inner, rest) ↔
      cs = inner ++ '"' :: rest ∧ '"' ∉ inner ∧ EndsWord rest := by
  constructor
  · intro h
    rw [quoted?] at h
    split at h
    · next inner' rest' huntil =>
      obtain ⟨hcs, hinner⟩ := of_untilQuote huntil
      split at h
      · next hends =>
        cases h
        exact ⟨hcs, hinner, atBoundary_iff.1 hends⟩
      · cases h
    · cases h
  · rintro ⟨rfl, hinner, hends⟩
    rw [quoted?, untilQuote_append hinner]
    dsimp only
    rw [if_pos (atBoundary_iff.2 hends)]

theorem quoted?_eq_none_iff : quoted? cs = none ↔ ¬ Closes cs := by
  rw [Option.eq_none_iff_forall_ne_some]
  constructor
  · rintro h ⟨inner, rest, hcs⟩
    exact h (inner, rest) (quoted?_eq_some_iff.2 hcs)
  · rintro h ⟨inner, rest⟩ hquoted
    exact h ⟨inner, rest, quoted?_eq_some_iff.1 hquoted⟩

/-- The next quote after a text without quotes is the one right behind it. -/
theorem closes_append_cons (h : '"' ∉ a) : Closes (a ++ '"' :: b) ↔ EndsWord b := by
  constructor
  · rintro ⟨inner, rest, heq, hinner, hends⟩
    have ha : untilQuote (a ++ '"' :: b) = some (a, b) := untilQuote_append h
    rw [heq, untilQuote_append hinner] at ha
    cases ha
    exact hends
  · exact fun hends => ⟨a, b, rfl, h, hends⟩

/-- A text without quotes closes nothing. -/
theorem not_closes (h : '"' ∉ cs) : ¬ Closes cs := by
  rintro ⟨inner, rest, rfl, -⟩
  exact h (by simp)

/-- A text without quotes in front does not change what the next quote is. -/
theorem closes_append_iff (h : '"' ∉ a) : Closes (a ++ b) ↔ Closes b := by
  have hmem : ∀ {x : List Char}, '"' ∉ x → '"' ∉ a ++ x := by
    intro x hx
    rw [List.mem_append, not_or]
    exact ⟨h, hx⟩
  by_cases hb : '"' ∈ b
  · obtain ⟨x, y, rfl, hx⟩ := List.eq_append_cons_of_mem hb
    rw [← List.append_assoc, closes_append_cons (hmem hx), closes_append_cons hx]
  · exact iff_of_false (not_closes (hmem hb)) (not_closes hb)

/-- Behind a quote in the text itself it does not matter what comes next, as long as
a word may end there. -/
theorem Closes.of_mem (h : '"' ∈ cs) (hb : EndsWord b) (hcloses : Closes (cs ++ a)) :
    Closes (cs ++ b) := by
  obtain ⟨x, y, rfl, hx⟩ := List.eq_append_cons_of_mem h
  rw [List.append_assoc, List.cons_append, closes_append_cons hx] at hcloses ⊢
  cases y with
  | nil => exact hb
  | cons c y => exact endsWord_cons.2 (endsWord_cons.1 hcloses)

/-- **How far a word looks**: what comes after it matters only as far as the next
quote. -/
theorem Opens.of_closes (hne : word ≠ []) (hb : EndsWord b) (h : Closes a → Closes b)
    (hopens : Opens (word ++ a)) : Opens (word ++ b) := by
  cases word with
  | nil => exact absurd rfl hne
  | cons c word =>
    obtain ⟨ds, heq, hcloses⟩ := hopens
    rw [List.cons_append, List.cons.injEq] at heq
    obtain ⟨rfl, rfl⟩ := heq
    refine ⟨word ++ b, rfl, ?_⟩
    by_cases hword : '"' ∈ word
    · exact hcloses.of_mem hword hb
    · rw [closes_append_iff hword] at hcloses ⊢
      exact h hcloses

/-! ## Pieces -/

/-- A piece of a text. -/
inductive Piece where
  /-- A run of blanks. -/
  | gap (blanks : List Char)
  /-- A word in quotes, told by what stands between them. -/
  | quoted (inner : List Char)
  /-- A plain word. -/
  | plain (word : List Char)
deriving Repr, DecidableEq

namespace Piece

/-- The text of a piece. -/
def text : Piece → List Char
  | gap blanks => blanks
  | quoted inner => '"' :: (inner ++ ['"'])
  | plain word => word

/-- The token that a piece gives, if it is a word. -/
def token? : Piece → Option (List Char)
  | gap _ => none
  | quoted inner => some inner
  | plain word => some word

/-- That a piece may come after some text: a word where a word may start, and a run
of blanks where no blank is before it. -/
def Follows (before : List Char) : Piece → Prop
  | gap _ => ∀ c ∈ before.getLast?, Text.isBlank c = false
  | quoted _ => StartsWord before
  | plain _ => StartsWord before

/-- **That a piece may come before some text**: a run of blanks must be all of it, a
word must end where a word may, and a plain word must not start with a quote that is
closed. -/
def Leads (after : List Char) : Piece → Prop
  | gap blanks =>
    blanks ≠ [] ∧ (∀ c ∈ blanks, Text.isBlank c = true) ∧
      ∀ c ∈ after.head?, Text.isBlank c = false
  | quoted inner => '"' ∉ inner ∧ EndsWord after
  | plain word =>
    word ≠ [] ∧ (∀ c ∈ word, Text.isBlank c = false) ∧ EndsWord after ∧ ¬ Opens (word ++ after)

variable {p : Piece}

theorem text_quoted_append : (quoted inner).text ++ rest = '"' :: (inner ++ '"' :: rest) := by
  simp [text]

/-- A piece is not empty. -/
theorem Leads.text_ne_nil (h : p.Leads after) : p.text ≠ [] := by
  cases p with
  | gap blanks => exact h.1
  | quoted inner => exact List.cons_ne_nil _ _
  | plain word => exact h.1

end Piece

/-- **A cut of a text into pieces**, from left to right; `before` is what has been
cut already. -/
inductive Cut : List Char → List Char → List Piece → Prop
  /-- Nothing is left. -/
  | done {before : List Char} : Cut before [] []
  /-- A piece fits between what is before it and what is after it. -/
  | piece {before after : List Char} {p : Piece} {pieces : List Piece} :
      p.Follows before → p.Leads after → Cut (before ++ p.text) after pieces →
      Cut before (p.text ++ after) (p :: pieces)

/-! ## Reading the first piece -/

/-- A word is taken up to where it ends. -/
theorem takeWhile_word (hdark : ∀ c ∈ cs, Text.isBlank c = false) (hends : EndsWord ds) :
    (cs ++ ds).takeWhile (!Text.isBlank ·) = cs :=
  Text.takeWhile_append_eq (fun c hc => by simp [hdark c hc]) (fun c hc => by simp [hends c hc])

theorem dropWhile_word (hdark : ∀ c ∈ cs, Text.isBlank c = false) (hends : EndsWord ds) :
    (cs ++ ds).dropWhile (!Text.isBlank ·) = ds :=
  Text.dropWhile_append_eq (fun c hc => by simp [hdark c hc]) (fun c hc => by simp [hends c hc])

/-- The first piece of a text. -/
def leading (c : Char) (cs : List Char) : Piece :=
  if Text.isBlank c then .gap (c :: cs.takeWhile Text.isBlank)
  else match if c = '"' then quoted? cs else none with
    | some (inner, _) => .quoted inner
    | none => .plain (c :: cs.takeWhile (!Text.isBlank ·))

theorem leading_blank (hc : Text.isBlank c = true) :
    leading c cs = .gap (c :: cs.takeWhile Text.isBlank) := if_pos hc

theorem leading_quoted (h : '"' ∉ inner) (hends : EndsWord rest) :
    leading '"' (inner ++ '"' :: rest) = .quoted inner := by
  have hquoted : quoted? (inner ++ '"' :: rest) = some (inner, rest) :=
    quoted?_eq_some_iff.2 ⟨rfl, h, hends⟩
  rw [leading, if_neg (Bool.eq_false_iff.1 isBlank_quote), if_pos rfl, hquoted]

/-- What is read after a first character that opens no quotes. -/
theorem quoted?_of_not_opens (h : ¬ Opens (c :: cs)) :
    (if c = '"' then quoted? cs else none) = none := by
  split
  · next hc =>
    rw [quoted?_eq_none_iff]
    exact fun hcloses => h ⟨cs, by rw [hc], hcloses⟩
  · rfl

theorem leading_plain (hc : Text.isBlank c = false) (h : ¬ Opens (c :: cs)) :
    leading c cs = .plain (c :: cs.takeWhile (!Text.isBlank ·)) := by
  rw [leading, if_neg (Bool.eq_false_iff.1 hc), quoted?_of_not_opens h]

/-- **The first piece is no matter of choice.** -/
theorem Piece.Leads.leading_eq {p : Piece} (h : p.Leads after) (heq : p.text ++ after = c :: cs) :
    leading c cs = p := by
  cases p with
  | gap blanks =>
    obtain ⟨hne, hblanks, hafter⟩ := h
    obtain ⟨d, blanks, rfl⟩ := List.exists_cons_of_ne_nil hne
    obtain ⟨rfl, rfl⟩ : d = c ∧ blanks ++ after = cs := List.cons.inj heq
    obtain ⟨hc, hblanks⟩ := List.forall_mem_cons.1 hblanks
    rw [leading_blank hc, Text.takeWhile_append_eq hblanks hafter]
  | quoted inner =>
    obtain ⟨hinner, hends⟩ := h
    rw [Piece.text_quoted_append] at heq
    cases heq
    exact leading_quoted hinner hends
  | plain word =>
    obtain ⟨hne, hdark, hends, hopens⟩ := h
    obtain ⟨d, word, rfl⟩ := List.exists_cons_of_ne_nil hne
    obtain ⟨rfl, rfl⟩ : d = c ∧ word ++ after = cs := List.cons.inj heq
    have hopens : ¬ Opens (d :: (word ++ after)) := hopens
    obtain ⟨hc, hdark⟩ := List.forall_mem_cons.1 hdark
    rw [leading_plain hc hopens, takeWhile_word hdark hends]

/-- **There is a first piece.** -/
theorem exists_leading (c : Char) (cs : List Char) :
    ∃ rest, c :: cs = (leading c cs).text ++ rest ∧ (leading c cs).Leads rest := by
  cases hc : Text.isBlank c with
  | true =>
    obtain ⟨htaken, hdropped, hcs⟩ := Text.exists_takeWhile Text.isBlank cs
    rw [leading_blank hc]
    refine ⟨cs.dropWhile Text.isBlank, congrArg (c :: ·) hcs, List.cons_ne_nil _ _, ?_, hdropped⟩
    exact List.forall_mem_cons.2 ⟨hc, htaken⟩
  | false =>
    by_cases hopens : Opens (c :: cs)
    · obtain ⟨_, heq, inner, rest, rfl, hinner, hends⟩ := hopens
      cases heq
      rw [leading_quoted hinner hends]
      exact ⟨rest, Piece.text_quoted_append.symm, hinner, hends⟩
    · obtain ⟨htaken, hdropped, hcs⟩ := Text.exists_takeWhile (!Text.isBlank ·) cs
      rw [leading_plain hc hopens]
      have htext : c :: cs = (c :: cs.takeWhile (!Text.isBlank ·)) ++
          cs.dropWhile (!Text.isBlank ·) := congrArg (c :: ·) hcs
      refine ⟨cs.dropWhile (!Text.isBlank ·), htext, List.cons_ne_nil _ _, ?_, ?_, htext ▸ hopens⟩
      · exact List.forall_mem_cons.2 ⟨hc, fun x hx => by simpa using htaken x hx⟩
      · exact fun x hx => by simpa using hdropped x hx

/-- **Induction along a text**: piece by piece from the end. -/
@[elab_as_elim]
theorem piece_induction {P : List Char → Prop} (nil : P [])
    (piece : ∀ p rest, Piece.Leads rest p → P rest → P (p.text ++ rest)) (cs : List Char) :
    P cs := by
  induction hn : cs.length using Nat.strong_induction_on generalizing cs with
  | _ n ih =>
    cases cs with
    | nil => exact nil
    | cons c cs =>
      obtain ⟨rest, heq, hleads⟩ := exists_leading c cs
      have hpos := List.length_pos_iff.2 hleads.text_ne_nil
      have hlength := congrArg List.length heq
      rw [List.length_append] at hlength
      rw [heq]
      exact piece _ rest hleads (ih rest.length (by omega) rest rfl)

/-! ## What is read -/

/-- Blanks in front are passed over. -/
theorem cut_blanks (h : ∀ c ∈ cs, Text.isBlank c = true) : cut (cs ++ ds) = cut ds := by
  induction cs with
  | nil => rfl
  | cons c cs ih =>
    obtain ⟨hc, hcs⟩ := List.forall_mem_cons.1 h
    rw [List.cons_append, cut, if_pos hc, ih hcs]

/-- **Each piece is read as its token.** -/
theorem cut_piece {p : Piece} (h : p.Leads rest) :
    cut (p.text ++ rest) = p.token?.toList ++ cut rest := by
  cases p with
  | gap blanks => exact cut_blanks h.2.1
  | quoted inner =>
    obtain ⟨hinner, hends⟩ := h
    have hfirst : first '"' (inner ++ '"' :: rest) = (inner, rest) := by
      rw [first, if_pos rfl, quoted?_eq_some_iff.2 ⟨rfl, hinner, hends⟩]
    rw [Piece.text_quoted_append, cut, if_neg (Bool.eq_false_iff.1 isBlank_quote), hfirst]
    rfl
  | plain word =>
    obtain ⟨hne, hdark, hends, hopens⟩ := h
    obtain ⟨c, word, rfl⟩ := List.exists_cons_of_ne_nil hne
    have hopens : ¬ Opens (c :: (word ++ rest)) := hopens
    obtain ⟨hc, hdark⟩ := List.forall_mem_cons.1 hdark
    have hfirst : first c (word ++ rest) = (c :: word, rest) := by
      rw [first, quoted?_of_not_opens hopens]
      dsimp only
      rw [takeWhile_word hdark hends, dropWhile_word hdark hends]
    have hcut : cut (c :: (word ++ rest)) = (c :: word) :: cut rest := by
      rw [cut, if_neg (Bool.eq_false_iff.1 hc), hfirst]
    exact hcut

/-- Blanks behind a text give no tokens. -/
theorem cut_append_blanks (h : ∀ c ∈ trail, Text.isBlank c = true) (cs : List Char) :
    cut (cs ++ trail) = cut cs := by
  induction cs using piece_induction with
  | nil =>
    rw [List.nil_append, ← List.append_nil trail, cut_blanks h]
  | piece p rest hleads ih =>
    rw [List.append_assoc, cut_piece hleads, ← ih]
    have hends : EndsWord rest → EndsWord (rest ++ trail) :=
      fun hrest => hrest.append (endsWord_of_blanks h)
    cases p with
    | gap blanks => exact cut_blanks hleads.2.1
    | quoted inner => exact cut_piece (p := .quoted inner) ⟨hleads.1, hends hleads.2⟩
    | plain word =>
      obtain ⟨hne, hdark, hrest, hopens⟩ := hleads
      -- no quote is added, so none is closed that was not closed before
      have hcloses : Closes (rest ++ trail) → Closes rest := by
        intro hcloses
        by_cases hmem : '"' ∈ rest
        · have hnil : Closes (rest ++ []) := hcloses.of_mem hmem endsWord_nil
          rwa [List.append_nil] at hnil
        · rw [closes_append_iff hmem] at hcloses
          exact absurd hcloses (not_closes (quote_notMem_of_blanks h))
      exact cut_piece (p := .plain word)
        ⟨hne, hdark, hends hrest, fun ho => hopens (ho.of_closes hne hrest hcloses)⟩

/-- **Stripping a text does not change its tokens.** -/
theorem cut_strip (cs : List Char) : cut (Text.strip cs) = cut cs := by
  obtain ⟨lead, trail, hlead, htrail, hcs⟩ := Text.exists_strip cs
  have hcut := congrArg cut hcs
  rw [cut_blanks hlead, cut_append_blanks htrail] at hcut
  exact hcut.symm

theorem tokenize_eq (line : String) : tokenize line = (cut line.toList).map String.ofList := by
  rw [tokenize, cut_strip]

/-- The tokens of a text are those of its pieces. -/
theorem Cut.cut_eq {pieces : List Piece} (h : Cut before cs pieces) :
    cut cs = pieces.filterMap Piece.token? := by
  induction h with
  | done => rw [cut]; rfl
  | @piece before after p pieces _ hleads _ ih =>
    rw [cut_piece hleads, ih, List.filterMap_cons]
    cases p <;> rfl

/-! ## Every text has one cut -/

/-- That blanks and words take turns where two texts meet. -/
def Meets (before cs : List Char) : Prop :=
  ∀ b ∈ before.getLast?, ∀ c ∈ cs.head?, Text.isBlank b ≠ Text.isBlank c

namespace Piece

/-- Whether a piece is a run of blanks. -/
def isGap : Piece → Bool
  | gap _ => true
  | quoted _ => false
  | plain _ => false

variable {p : Piece}

theorem follows_iff : p.Follows before ↔ ∀ c ∈ before.getLast?, Text.isBlank c = !p.isGap := by
  cases p <;> exact Iff.rfl

theorem Leads.isBlank_head (h : p.Leads after) : ∀ c ∈ p.text.head?, Text.isBlank c = p.isGap := by
  intro c hc
  cases p with
  | gap blanks => exact h.2.1 c (List.mem_of_mem_head? hc)
  | plain word => exact h.2.1 c (List.mem_of_mem_head? hc)
  | quoted inner =>
    cases hc
    exact isBlank_quote

theorem Leads.isBlank_last (h : p.Leads after) :
    ∀ c ∈ p.text.getLast?, Text.isBlank c = p.isGap := by
  intro c hc
  cases p with
  | gap blanks => exact h.2.1 c (List.mem_of_mem_getLast? hc)
  | plain word => exact h.2.1 c (List.mem_of_mem_getLast? hc)
  | quoted inner =>
    rw [text, ← List.cons_append, List.getLast?_concat] at hc
    cases hc
    exact isBlank_quote

theorem Leads.isBlank_after (h : p.Leads after) :
    ∀ c ∈ after.head?, Text.isBlank c = !p.isGap := by
  cases p with
  | gap blanks => exact h.2.2
  | quoted inner => exact h.2
  | plain word => exact h.2.2.1

end Piece

/-- What has been cut never ends as the rest starts. -/
theorem meets_of_leads {p : Piece} (h : p.Leads after) : Meets (before ++ p.text) after := by
  intro b hb c hc
  have hlast : b ∈ p.text.getLast? := by
    rw [List.getLast?_append, List.getLast?_eq_some_getLast h.text_ne_nil] at hb
    rwa [List.getLast?_eq_some_getLast h.text_ne_nil]
  rw [h.isBlank_last b hlast, h.isBlank_after c hc]
  cases p.isGap <;> decide

/-- Where blanks and words take turns, the next piece may follow. -/
theorem Meets.follows {p : Piece} (hleads : p.Leads after) (h : Meets before (p.text ++ after)) :
    p.Follows before := by
  rw [Piece.follows_iff]
  intro b hb
  obtain ⟨c, text, htext⟩ := List.exists_cons_of_ne_nil hleads.text_ne_nil
  have hne : Text.isBlank b ≠ Text.isBlank c := h b hb c (by rw [htext]; rfl)
  have hc : Text.isBlank c = p.isGap := hleads.isBlank_head c (by rw [htext]; rfl)
  rw [hc] at hne
  exact Bool.eq_not_of_ne hne

theorem exists_cut (h : Meets before cs) : ∃ pieces, Cut before cs pieces := by
  induction cs using piece_induction generalizing before with
  | nil => exact ⟨[], .done⟩
  | piece p rest hleads ih =>
    obtain ⟨pieces, hrest⟩ := ih (meets_of_leads hleads)
    exact ⟨p :: pieces, .piece (h.follows hleads) hleads hrest⟩

theorem Cut.unique {pieces others : List Piece} (h : Cut before cs pieces)
    (h' : Cut before ds others) (heq : cs = ds) : pieces = others := by
  induction h generalizing ds others with
  | done =>
    cases h' with
    | done => rfl
    | piece _ hleads _ => exact absurd (List.append_eq_nil_iff.1 heq.symm).1 hleads.text_ne_nil
  | @piece before after p pieces _ hleads _ ih =>
    cases h' with
    | done => exact absurd (List.append_eq_nil_iff.1 heq).1 hleads.text_ne_nil
    | @piece _ after' q others _ hleads' hrest' =>
      obtain ⟨c, cs, hcons⟩ := List.exists_cons_of_ne_nil
        (List.append_ne_nil_of_left_ne_nil hleads.text_ne_nil after)
      -- both pieces are the one that the text starts with
      have hp : leading c cs = p := hleads.leading_eq hcons
      have hq : leading c cs = q := hleads'.leading_eq (heq.symm.trans hcons)
      obtain rfl : p = q := hp.symm.trans hq
      have hafter : after = after' := List.append_cancel_left heq
      exact congrArg (p :: ·) (ih hrest' hafter)

/-! ## Nothing is lost -/

/-- What is left of a text without its blanks and quotes. -/
def letters (cs : List Char) : List Char := cs.filter fun c => !Text.isBlank c && c != '"'

theorem letters_append : letters (cs ++ ds) = letters cs ++ letters ds := List.filter_append _ _

theorem letters_of_blanks (h : ∀ c ∈ cs, Text.isBlank c = true) : letters cs = [] :=
  List.filter_eq_nil_iff.2 fun c hc => by simp [h c hc]

/-- **A piece loses blanks and quotes alone.** -/
theorem Piece.letters_text {p : Piece} (h : p.Leads after) :
    letters p.text = letters (p.token?.getD []) := by
  cases p with
  | gap blanks => exact letters_of_blanks h.2.1
  | plain word => rfl
  | quoted inner =>
    have hquote : letters ['"'] = [] := by decide
    have htext : letters (quoted inner).text = letters ['"'] ++ (letters inner ++ letters ['"']) := by
      rw [← letters_append, ← letters_append]
      rfl
    rw [htext, hquote, List.append_nil]
    rfl

theorem letters_cut (cs : List Char) : letters (cut cs).flatten = letters cs := by
  induction cs using piece_induction with
  | nil => rw [cut]; rfl
  | piece p rest hleads ih =>
    have htoken : p.token?.toList.flatten = p.token?.getD [] := by
      cases p.token? <;> simp
    rw [cut_piece hleads, List.flatten_append, letters_append, letters_append, ih, htoken,
      Piece.letters_text hleads]

/-- **What tokens are.** A line without the blanks at its ends is cut into pieces in one
way and no other, and its tokens are those of the pieces, in order. Without blanks and
quotes the tokens together are the line. -/
theorem tokenize_pieces (line : String) :
    ∃ pieces, (∀ other, Cut [] (Text.strip line.toList) other ↔ other = pieces) ∧
      tokenize line = (pieces.filterMap Piece.token?).map String.ofList ∧
      letters (String.join (tokenize line)).toList = letters line.toList := by
  have hstart : Meets [] (Text.strip line.toList) := fun b hb => by cases hb
  obtain ⟨pieces, hcut⟩ := exists_cut hstart
  refine ⟨pieces, fun other => ⟨fun hother => hother.unique hcut rfl, fun heq => heq ▸ hcut⟩,
    ?_, ?_⟩
  · rw [tokenize, hcut.cut_eq]
  · have hjoin : (String.join (tokenize line)).toList = (cut line.toList).flatten := by
      rw [tokenize_eq, String.toList_join, List.flatMap_map, List.flatMap_def]
      simp only [String.toList_ofList, List.map_id']
    rw [hjoin, letters_cut]

/-- A quote in a word, one that is never closed, and one that is. -/
example : tokenize "say a\"b \"c d\" \"e" = ["say", "a\"b", "c d", "\"e"] := by decide +kernel

end Chatline.Token
