import Chatline.Text.Blank
/-!
# Tokens of a line

A line is cut into tokens at its blanks. A word that starts with a double
quote is read up to the next double quote, blanks included, when that quote
ends the text or stands before a blank; the token is then the text between the
two quotes. Any other word is the maximal run of characters that are not
blank, and its token is the word itself, quotes and all. There are no escapes.
-/

namespace Chatline.Token

/-- What follows an opening quote, cut at the next quote: the text before it
and the text after it. -/
def untilQuote : List Char → Option (List Char × List Char)
  | [] => none
  | c :: cs =>
    if c = '"' then some ([], cs)
    else (untilQuote cs).map fun (inner, rest) => (c :: inner, rest)

/-- Whether a word may end here: at the end of the text or before a blank. -/
def atBoundary : List Char → Bool
  | [] => true
  | c :: _ => Text.isBlank c

/-- The text between the quotes of a quoted word and what follows it; the
opening quote has been read. -/
def quoted? (cs : List Char) : Option (List Char × List Char) :=
  match untilQuote cs with
  | some (inner, rest) => if atBoundary rest then some (inner, rest) else none
  | none => none

/-- The token that starts with a character that is not blank, and what follows
it. -/
def first (c : Char) (cs : List Char) : List Char × List Char :=
  match if c = '"' then quoted? cs else none with
  | some quoted => quoted
  | none => (c :: cs.takeWhile (!Text.isBlank ·), cs.dropWhile (!Text.isBlank ·))

theorem length_untilQuote {cs inner rest : List Char} (h : untilQuote cs = some (inner, rest)) :
    rest.length ≤ cs.length := by
  induction cs generalizing inner with
  | nil => simp [untilQuote] at h
  | cons c cs ih =>
    unfold untilQuote at h
    split at h
    · simp only [Option.some.injEq, Prod.mk.injEq] at h
      simp [← h.2]
    · obtain ⟨⟨inner', rest'⟩, hcs, heq⟩ := Option.map_eq_some_iff.1 h
      simp only [Prod.mk.injEq] at heq
      have := ih (heq.2 ▸ hcs)
      simp only [List.length_cons]
      omega

theorem length_quoted? {cs inner rest : List Char} (h : quoted? cs = some (inner, rest)) :
    rest.length ≤ cs.length := by
  unfold quoted? at h
  split at h
  · next inner' rest' hcs =>
    split at h
    · simp only [Option.some.injEq, Prod.mk.injEq] at h
      exact h.2 ▸ length_untilQuote hcs
    · cases h
  · cases h

theorem length_dropWhile_le (p : Char → Bool) (cs : List Char) :
    (cs.dropWhile p).length ≤ cs.length :=
  (List.dropWhile_sublist p).length_le

/-- A token takes at least the character it starts with. -/
theorem length_first (c : Char) (cs : List Char) : (first c cs).2.length ≤ cs.length := by
  unfold first
  split
  · next inner hq =>
    split at hq
    · exact length_quoted? hq
    · cases hq
  · exact length_dropWhile_le _ cs

/-- The tokens of a text that starts where a word may start. -/
def cut : List Char → List (List Char)
  | [] => []
  | c :: cs => if Text.isBlank c then cut cs else (first c cs).1 :: cut (first c cs).2
termination_by cs => cs.length
decreasing_by
  · simp
  · simp only [List.length_cons]
    exact Nat.lt_succ_of_le (length_first c cs)

/-- The tokens of a line. -/
def tokenize (line : String) : List String := (cut (Text.strip line.toList)).map String.ofList

end Chatline.Token
