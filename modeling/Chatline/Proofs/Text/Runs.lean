import Chatline.Text.Blank
import Mathlib.Data.List.TakeWhile
/-!
# Runs of characters

Texts are cut into words in two ways: a grammar in bracket notation at its blanks, and a
usage line at its spaces, brackets and bars. Either way a word is a maximal run of
characters that are no separators, so both are cases of `runs`, and for the blanks
`words_eq_runs` says so. A text that is made of words and separators between them is cut
into these words (`runs_intercalate`).
-/

namespace Chatline.Text

/-- The maximal runs of characters that are no separators, in order. -/
def runs (separates : Char → Bool) (cs : List Char) : List (List Char) :=
  (cs.splitOnP separates).filter (!·.isEmpty)

variable {p : Char → Bool} {c : Char} {cs ds w : List Char} {ws : List (List Char)}

@[simp] theorem runs_nil : runs p [] = [] := by
  simp [runs]

/-- **A separator cuts a text in two.** -/
theorem runs_append_cons (hc : p c = true) : runs p (cs ++ c :: ds) = runs p cs ++ runs p ds := by
  simp [runs, List.splitOnP_append_cons _ _ hc]

theorem runs_cons (hc : p c = true) : runs p (c :: cs) = runs p cs := by
  have hcut : runs p ([] ++ c :: cs) = runs p [] ++ runs p cs := runs_append_cons hc
  simpa using hcut

/-- A text without separators is one run. -/
theorem runs_of_forall (hne : w ≠ []) (hw : ∀ c ∈ w, p c = false) : runs p w = [w] := by
  simp [runs, List.splitOnP_eq_singleton hw, hne]

/-- **A run is cut off** where a separator or the end of the text follows. -/
theorem runs_append (hne : w ≠ []) (hw : ∀ c ∈ w, p c = false)
    (hstop : ∀ c ∈ ds.head?, p c = true) : runs p (w ++ ds) = w :: runs p ds := by
  cases ds with
  | nil => simpa using runs_of_forall hne hw
  | cons c ds =>
    have hc : p c = true := hstop c rfl
    rw [runs_append_cons hc, runs_of_forall hne hw, runs_cons hc]
    rfl

/-- There are no runs where there are only separators. -/
theorem runs_eq_nil_iff : runs p cs = [] ↔ ∀ c ∈ cs, p c = true := by
  induction cs with
  | nil => simp
  | cons c cs ih =>
    cases hc : p c with
    | true => simp [runs_cons hc, hc, ih]
    | false =>
      have hne : (c :: cs).takeWhile (!p ·) ≠ [] := by simp [hc]
      have hw : ∀ d ∈ (c :: cs).takeWhile (!p ·), p d = false := fun d hd => by
        simpa using List.mem_takeWhile_imp hd
      have hstop : ∀ d ∈ ((c :: cs).dropWhile (!p ·)).head?, p d = true := fun d hd => by
        have hnot := List.head?_dropWhile_not (!p ·) (c :: cs)
        rw [Option.mem_def.1 hd] at hnot
        simpa using hnot
      have hruns := runs_append hne hw hstop
      rw [List.takeWhile_append_dropWhile] at hruns
      simp [hruns, hc]

/-- Each part of a text that is cut holds no separator. -/
theorem of_mem_splitOnP (h : w ∈ cs.splitOnP p) : ∀ c ∈ w, p c = false := by
  induction cs generalizing w with
  | nil =>
    have hnil : w = [] := by simpa using h
    simp [hnil]
  | cons c cs ih =>
    rw [List.splitOnP_cons_eq_if_modifyHead] at h
    split at h
    · rcases List.mem_cons.1 h with rfl | hw
      · simp
      · exact ih hw
    · next hc =>
      -- the character comes to the first part of the later ones
      obtain ⟨first, parts, hparts⟩ := List.exists_cons_of_ne_nil (List.splitOnP_ne_nil p cs)
      rw [hparts, List.modifyHead_cons] at h
      rcases List.mem_cons.1 h with rfl | hw
      · have hfirst : ∀ d ∈ first, p d = false := ih (by simp [hparts])
        simpa [hc] using hfirst
      · exact ih (by simp [hparts, hw])

/-- **A run** is not empty and holds no separator. -/
theorem of_mem_runs (h : w ∈ runs p cs) : w ≠ [] ∧ ∀ c ∈ w, p c = false := by
  obtain ⟨hpart, hne⟩ := List.mem_filter.1 h
  exact ⟨by simpa using hne, of_mem_splitOnP hpart⟩

/-- **Words with a separator between each two of them** are the runs of their text. -/
theorem runs_intercalate (hc : p c = true) (hws : ∀ w ∈ ws, w ≠ [] ∧ ∀ d ∈ w, p d = false) :
    runs p ([c].intercalate ws) = ws := by
  induction ws with
  | nil => simp
  | cons w ws ih =>
    obtain ⟨⟨hne, hw⟩, hlater⟩ := List.forall_mem_cons.1 hws
    have hrest := ih hlater
    cases ws with
    | nil => simpa using runs_of_forall hne hw
    | cons v ws =>
      rw [List.intercalate_cons_cons, List.append_assoc, List.singleton_append,
        runs_append hne hw (by simpa using hc), runs_cons hc, hrest]

/-! ## Taking a run -/

/-- A run that is followed by something else is taken as a whole. -/
theorem takeWhile_append_eq (hcs : ∀ c ∈ cs, p c = true) (hds : ∀ c ∈ ds.head?, p c = false) :
    (cs ++ ds).takeWhile p = cs := by
  rw [List.takeWhile_append_of_pos hcs]
  cases ds with
  | nil => simp
  | cons c ds => simp [hds c rfl]

/-- And nothing more is. -/
theorem dropWhile_append_eq (hcs : ∀ c ∈ cs, p c = true) (hds : ∀ c ∈ ds.head?, p c = false) :
    (cs ++ ds).dropWhile p = ds := by
  rw [List.dropWhile_append_of_pos hcs]
  cases ds with
  | nil => rfl
  | cons c ds => simp [hds c rfl]

theorem drop_length_takeWhile (p : Char → Bool) (cs : List Char) :
    cs.drop (cs.takeWhile p).length = cs.dropWhile p := by
  have hdrop : (cs.takeWhile p ++ cs.dropWhile p).drop (cs.takeWhile p).length = cs.dropWhile p :=
    List.drop_left
  rwa [List.takeWhile_append_dropWhile] at hdrop

/-- A text is what is taken and what is dropped, and dropping stops for a reason. -/
theorem exists_takeWhile (p : Char → Bool) (cs : List Char) :
    (∀ c ∈ cs.takeWhile p, p c = true) ∧ (∀ c ∈ (cs.dropWhile p).head?, p c = false) ∧
      cs = cs.takeWhile p ++ cs.dropWhile p := by
  refine ⟨fun c hc => List.mem_takeWhile_imp hc, fun c hc => ?_, ?_⟩
  · have hnot := List.head?_dropWhile_not p cs
    rwa [Option.mem_def.1 hc] at hnot
  · exact List.takeWhile_append_dropWhile.symm

/-! ## Words between blanks -/

/-- The words of a text, the first of which was begun, are the runs of the whole. -/
theorem wordsFrom_eq_runs {word : List Char} (h : ∀ c ∈ word, isBlank c = false) :
    wordsFrom word cs = runs isBlank (word.reverse ++ cs) := by
  -- the word that was begun is a run as soon as a blank or the end of the text follows
  have hbegun : ∀ word : List Char, (∀ c ∈ word, isBlank c = false) →
      runs isBlank word.reverse = if word.isEmpty then [] else [word.reverse] := by
    intro word h
    by_cases hne : word = []
    · simp [hne]
    · have hreverse : ∀ c ∈ word.reverse, isBlank c = false := by simpa using h
      rw [runs_of_forall (by simpa using hne) hreverse]
      simp [hne]
  induction cs generalizing word with
  | nil => rw [wordsFrom, List.append_nil, hbegun word h]
  | cons c cs ih =>
    rw [wordsFrom]
    by_cases hc : isBlank c = true
    · have hnone : ∀ c ∈ ([] : List Char), isBlank c = false := by simp
      have hlater : wordsFrom [] cs = runs isBlank cs := by simpa using ih hnone
      rw [if_pos hc, runs_append_cons hc, hbegun word h, hlater]
      split <;> rfl
    · have hword : ∀ d ∈ c :: word, isBlank d = false := by simpa [hc] using h
      rw [if_neg hc, ih hword, List.reverse_cons, List.append_assoc, List.singleton_append]

/-- **The words of a text** are its runs of characters that are not blank. -/
theorem words_eq_runs (cs : List Char) : words cs = runs isBlank cs :=
  wordsFrom_eq_runs (by simp)

/-- A text without words is blank. -/
theorem words_eq_nil_iff : words cs = [] ↔ ∀ c ∈ cs, isBlank c = true := by
  rw [words_eq_runs, runs_eq_nil_iff]

end Chatline.Text
