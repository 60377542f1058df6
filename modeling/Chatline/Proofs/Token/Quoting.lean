import Chatline.Proofs.Token.Pieces
/-!
# Writing strings into a line

A string without quotes can be written into a line so that it is read back: between
quotes, or as it is if it is a word (`tokenize_written`). A token that holds a quote
cannot stand between quotes, but it was a plain word of its line, and it can be written
as it is again even if all other tokens are put between quotes: what follows it is then
cut off at the next quote just as before (`tokenize_requoted`).
-/

namespace Chatline.Token

variable {cs rest word : List Char}

/-! ## Strings that are written -/

/-- A string in a line, with the blanks behind it. -/
structure Entry where
  /-- The string. -/
  string : String
  /-- Whether it stands between quotes. -/
  inQuotes : Bool
  /-- The blanks behind it. -/
  gap : String
  /-- The string holds no quote. -/
  unquoted : '"' ∉ string.toList
  /-- Without quotes around it the string must be a word. -/
  word : inQuotes = false → string ≠ "" ∧ ∀ c ∈ string.toList, Text.isBlank c = false
  /-- Nothing but blanks is behind it. -/
  blank : ∀ c ∈ gap.toList, Text.isBlank c = true

namespace Entry

variable (e : Entry)

/-- The text of an entry. -/
def written : String := (if e.inQuotes then "\"" ++ e.string ++ "\"" else e.string) ++ e.gap

/-- The word that an entry is read as. -/
def piece : Piece := if e.inQuotes then .quoted e.string.toList else .plain e.string.toList

theorem toList_written : e.written.toList = e.piece.text ++ e.gap.toList := by
  rw [written, piece]
  cases e.inQuotes with
  | true => simp [Piece.text]
  | false => simp [Piece.text]

theorem token?_piece : e.piece.token? = some e.string.toList := by
  rw [piece]
  split <;> rfl

/-- A word without quotes in it can stand before whatever ends a word. -/
theorem piece_leads (hends : EndsWord rest) : e.piece.Leads rest := by
  rw [piece]
  cases hquotes : e.inQuotes with
  | true => exact ⟨e.unquoted, hends⟩
  | false =>
    obtain ⟨hne, hdark⟩ := e.word hquotes
    have hlist : e.string.toList ≠ [] := fun hnil => hne (String.toList_eq_nil_iff.1 hnil)
    refine ⟨hlist, hdark, hends, ?_⟩
    rintro ⟨ds, hstart, -⟩
    obtain ⟨c, string, hcons⟩ := List.exists_cons_of_ne_nil hlist
    rw [hcons, List.cons_append, List.cons.injEq] at hstart
    have hmem : '"' ∈ e.string.toList := by
      rw [hcons, hstart.1]
      exact List.mem_cons_self
    exact e.unquoted hmem

theorem endsWord_gap (h : e.gap ≠ "" ∨ rest = []) : EndsWord (e.gap.toList ++ rest) := by
  rcases h with hgap | rfl
  · have hne : e.gap.toList ≠ [] := fun hnil => hgap (String.toList_eq_nil_iff.1 hnil)
    obtain ⟨c, gap, hcons⟩ := List.exists_cons_of_ne_nil hne
    have hc : Text.isBlank c = true := e.blank c (by rw [hcons]; exact List.mem_cons_self)
    rw [hcons]
    exact endsWord_cons.2 hc
  · exact (endsWord_of_blanks e.blank).append endsWord_nil

/-- **An entry is read as its string.** -/
theorem cut_written (h : e.gap ≠ "" ∨ rest = []) :
    cut (e.written.toList ++ rest) = e.string.toList :: cut rest := by
  have hleads := e.piece_leads (e.endsWord_gap h)
  rw [toList_written, List.append_assoc, cut_piece hleads, cut_blanks e.blank, token?_piece]
  rfl

end Entry

/-- Entries are read as their strings, provided that blanks keep them apart. -/
theorem cut_entries {entries : List Entry} (h : ∀ e ∈ entries.dropLast, e.gap ≠ "") :
    cut (entries.flatMap fun e => e.written.toList) = entries.map fun e => e.string.toList := by
  induction entries with
  | nil => rw [List.flatMap_nil, cut]; rfl
  | cons e entries ih =>
    have hlater : ∀ e ∈ entries.dropLast, e.gap ≠ "" := by
      intro e' he'
      cases entries with
      | nil => cases he'
      | cons _ _ => exact h e' (List.mem_cons_of_mem _ he')
    -- only the last entry may do without blanks behind it
    have hgap : e.gap ≠ "" ∨ (entries.flatMap fun e => e.written.toList) = [] := by
      cases entries with
      | nil => exact Or.inr rfl
      | cons _ _ => exact Or.inl (h e List.mem_cons_self)
    rw [List.flatMap_cons, e.cut_written hgap, ih hlater, List.map_cons]

/-- **Strings that are written are read back**, each between quotes or, if it is a word,
as it is, with blanks between them and any blanks around them. -/
theorem tokenize_written (lead : String) (entries : List Entry)
    (hlead : ∀ c ∈ lead.toList, Text.isBlank c = true)
    (hgaps : ∀ e ∈ entries.dropLast, e.gap ≠ "") :
    tokenize (lead ++ String.join (entries.map Entry.written)) = entries.map Entry.string := by
  have htext : (lead ++ String.join (entries.map Entry.written)).toList =
      lead.toList ++ entries.flatMap fun e => e.written.toList := by
    rw [String.toList_append, String.toList_join, List.flatMap_map]
  rw [tokenize_eq, htext, cut_blanks hlead, cut_entries hgaps, List.map_map]
  exact List.map_congr_left fun e _ => String.ofList_toList

/-- The empty string, a word, and a string that starts and ends with blanks. -/
theorem letter_written :
    tokenize ("\t" ++ String.join (["\"\" ", "mail\n ", "\" see you \""])) =
      ["", "mail", " see you "] :=
  tokenize_written "\t"
    [⟨"", true, " ", by simp, by simp, by simp [Text.isBlank]⟩,
      ⟨"mail", false, "\n ", by simp, by simp [Text.isBlank], by simp [Text.isBlank]⟩,
      ⟨" see you ", true, "", by simp, by simp, by simp⟩]
    (by simp [Text.isBlank]) (by simp)

/-! ## Tokens that are written again -/

/-- A token between quotes, unless it holds a quote itself. -/
def requote (token : List Char) : List Char :=
  if '"' ∈ token then token else '"' :: (token ++ ['"'])

/-- Tokens behind a word, a blank before each. -/
def afterWord (tokens : List (List Char)) : List Char := tokens.flatMap fun t => ' ' :: requote t

theorem requote_of_mem (h : '"' ∈ word) : requote word = (Piece.plain word).text := if_pos h

theorem requote_of_notMem (h : '"' ∉ word) : requote word = (Piece.quoted word).text := if_neg h

theorem endsWord_afterWord (tokens : List (List Char)) : EndsWord (afterWord tokens) := by
  cases tokens with
  | nil => exact endsWord_nil
  | cons t tokens => exact endsWord_cons.2 (by decide)

/-- **The next quote is where it was**: if it is closed behind tokens that are written
again, then it was in the text they were read from. -/
theorem closes_of_afterWord (h : Closes (afterWord (cut cs))) : Closes cs := by
  have hblank : '"' ∉ [' '] := by decide
  have hbehind : ∀ {t : List Char} {ts : List (List Char)},
      Closes (afterWord (t :: ts)) → Closes (requote t ++ afterWord ts) :=
    fun hcloses => (closes_append_iff hblank).1 hcloses
  induction cs using piece_induction with
  | nil =>
    rw [cut] at h
    exact absurd h (not_closes List.not_mem_nil)
  | piece p rest hleads ih =>
    rw [cut_piece hleads] at h
    cases p with
    | gap blanks => exact (closes_append_iff (quote_notMem_of_blanks hleads.2.1)).2 (ih h)
    | quoted inner =>
      -- the next quote opens the token, as it did before, and the token starts the same
      have hcloses := hbehind h
      rw [requote_of_notMem hleads.1, Piece.text_quoted_append] at hcloses
      rw [Piece.text_quoted_append]
      have hends : EndsWord (inner ++ '"' :: afterWord (cut rest)) :=
        (closes_append_cons List.not_mem_nil).1 hcloses
      refine (closes_append_cons (a := []) List.not_mem_nil).2 ?_
      cases inner with
      | nil => exact hends
      | cons c inner => exact endsWord_cons.2 (endsWord_cons.1 hends)
    | plain word =>
      obtain ⟨hne, hdark, hends, -⟩ := hleads
      have hcloses := hbehind h
      by_cases hmem : '"' ∈ word
      · rw [requote_of_mem hmem] at hcloses
        exact hcloses.of_mem hmem hends
      · -- the quote before the token stands before a character that is not blank
        rw [requote_of_notMem hmem, Piece.text_quoted_append] at hcloses
        have hstart : EndsWord (word ++ '"' :: afterWord (cut rest)) :=
          (closes_append_cons List.not_mem_nil).1 hcloses
        obtain ⟨c, word, rfl⟩ := List.exists_cons_of_ne_nil hne
        have hblank := endsWord_cons.1 hstart
        rw [hdark c List.mem_cons_self] at hblank
        cases hblank

/-- A token is written again as a word that can stand before whatever ends a word, if
its text could. -/
theorem cut_requote {p : Piece} {token : List Char} (hleads : p.Leads cs)
    (htoken : p.token? = some token) :
    cut (requote token ++ afterWord (cut cs)) = token :: cut (afterWord (cut cs)) := by
  have hends := endsWord_afterWord (cut cs)
  have hquoted : '"' ∉ token → cut (requote token ++ afterWord (cut cs)) =
      token :: cut (afterWord (cut cs)) := by
    intro hmem
    have hagain : (Piece.quoted token).Leads (afterWord (cut cs)) := ⟨hmem, hends⟩
    rw [requote_of_notMem hmem, cut_piece hagain]
    rfl
  cases p with
  | gap blanks => cases htoken
  | quoted inner =>
    cases htoken
    exact hquoted hleads.1
  | plain word =>
    cases htoken
    by_cases hmem : '"' ∈ token
    · obtain ⟨hne, hdark, hbefore, hopens⟩ := hleads
      have hagain : (Piece.plain token).Leads (afterWord (cut cs)) :=
        ⟨hne, hdark, hends, fun ho => hopens (ho.of_closes hne hbefore closes_of_afterWord)⟩
      rw [requote_of_mem hmem, cut_piece hagain]
      rfl
    · exact hquoted hmem

theorem cut_afterWord_cons (t : List Char) (tokens : List (List Char)) :
    cut (afterWord (t :: tokens)) = cut (requote t ++ afterWord tokens) := by
  have hblank : ∀ c ∈ [' '], Text.isBlank c = true := by simp [Text.isBlank]
  exact cut_blanks hblank

theorem cut_afterWord (cs : List Char) : cut (afterWord (cut cs)) = cut cs := by
  induction cs using piece_induction with
  | nil =>
    have hnil : cut [] = [] := by rw [cut]
    rw [hnil]
    exact hnil
  | piece p rest hleads ih =>
    rw [cut_piece hleads]
    cases htoken : p.token? with
    | none => exact ih
    | some token =>
      have hlist : (some token).toList ++ cut rest = token :: cut rest := rfl
      rw [hlist, cut_afterWord_cons, cut_requote hleads htoken, ih]

/-- Tokens in one line: each between quotes unless it holds a quote itself, with single
spaces between them. -/
def requoted (tokens : List String) : String :=
  " ".intercalate (tokens.map fun t => if '"' ∈ t.toList then t else "\"" ++ t ++ "\"")

theorem intercalate_requote (t : List Char) (tokens : List (List Char)) :
    [' '].intercalate ((t :: tokens).map requote) = requote t ++ afterWord tokens := by
  induction tokens generalizing t with
  | nil => simp [afterWord]
  | cons next tokens ih =>
    have hlater : afterWord (next :: tokens) = ' ' :: (requote next ++ afterWord tokens) := rfl
    rw [hlater, ← ih next, List.map_cons, List.map_cons, List.intercalate_cons_cons,
      List.append_assoc]
    rfl

theorem toList_requoted (tokens : List (List Char)) :
    (requoted (tokens.map String.ofList)).toList = [' '].intercalate (tokens.map requote) := by
  rw [requoted, String.toList_intercalate, List.map_map, List.map_map]
  refine congrArg ([' '].intercalate) (List.map_congr_left fun t _ => ?_)
  by_cases h : '"' ∈ t
  · simp [requote, h]
  · simp [requote, h]

/-- **Tokens that are written again are read back.** -/
theorem tokenize_requoted (line : String) :
    tokenize (requoted (tokenize line)) = tokenize line := by
  have hagain : cut (requoted (tokenize line)).toList = cut (afterWord (cut line.toList)) := by
    rw [tokenize_eq, toList_requoted]
    cases cut line.toList with
    | nil => rfl
    | cons t tokens => rw [intercalate_requote, cut_afterWord_cons]
  rw [tokenize_eq, hagain, cut_afterWord, tokenize_eq]

/-- A token that starts with a quote stays apart from the quotes that are put around the
tokens behind it. -/
example : requoted ["\"a", "b c"] = "\"a \"b c\"" ∧
    tokenize "\"a \"b c\"" = ["\"a", "b c"] := by decide +kernel

end Chatline.Token
