import Chatline.Text.Blank
import Mathlib.Data.List.TakeWhile
/-!
# Stripped texts

A stripped text has no blank at either end (`isTrimmed_strip`), and stripping leaves
such a text alone (`IsTrimmed.strip_eq`).
-/

namespace Chatline.Text

/-- **A trimmed text**: neither its first character nor its last one is blank. -/
structure IsTrimmed (cs : List Char) : Prop where
  /-- The first character is not blank. -/
  head : ∀ c ∈ cs.head?, isBlank c = false
  /-- The last character is not blank. -/
  last : ∀ c ∈ cs.getLast?, isBlank c = false

variable {cs : List Char} {c : Char}

theorem dropWhile_isBlank_eq (h : ∀ c ∈ cs.head?, isBlank c = false) :
    cs.dropWhile isBlank = cs := by
  cases cs with
  | nil => rfl
  | cons c cs =>
    have hc : ¬ isBlank c = true := Bool.eq_false_iff.1 (h c rfl)
    exact List.dropWhile_cons_of_neg hc

/-- What is left of a text does not start with a blank. -/
theorem isBlank_of_mem_head? (h : c ∈ (cs.dropWhile isBlank).head?) : isBlank c = false := by
  have hnot := List.head?_dropWhile_not isBlank cs
  rwa [Option.mem_def.1 h] at hnot

/-- Stripping leaves a trimmed text alone. -/
theorem IsTrimmed.strip_eq (h : IsTrimmed cs) : strip cs = cs := by
  have hlast : ∀ c ∈ cs.reverse.head?, isBlank c = false := by
    rw [List.head?_reverse]
    exact h.last
  rw [strip, stripLeft, dropWhile_isBlank_eq h.head, stripRight, dropWhile_isBlank_eq hlast,
    List.reverse_reverse]

/-- A stripped text is trimmed. -/
theorem isTrimmed_strip (cs : List Char) : IsTrimmed (strip cs) := by
  constructor
  · intro c hc
    have hstart : strip cs <+: cs.dropWhile isBlank := by
      rw [← List.reverse_suffix, strip, stripRight, List.reverse_reverse]
      exact List.dropWhile_suffix _
    obtain ⟨rest, hrest⟩ := hstart
    have hmem : c ∈ (cs.dropWhile isBlank).head? := by
      rw [← hrest, List.head?_append, Option.mem_def.1 hc]
      rfl
    exact isBlank_of_mem_head? hmem
  · intro c hc
    rw [strip, stripRight, List.getLast?_reverse] at hc
    exact isBlank_of_mem_head? hc

/-- Only blanks are stripped, from both ends. -/
theorem exists_strip (cs : List Char) :
    ∃ lead trail, (∀ c ∈ lead, isBlank c = true) ∧ (∀ c ∈ trail, isBlank c = true) ∧
      cs = lead ++ (strip cs ++ trail) := by
  have hright : stripLeft cs =
      strip cs ++ ((stripLeft cs).reverse.takeWhile isBlank).reverse := by
    rw [strip, stripRight, ← List.reverse_append, List.takeWhile_append_dropWhile,
      List.reverse_reverse]
  refine ⟨cs.takeWhile isBlank, ((stripLeft cs).reverse.takeWhile isBlank).reverse,
    fun c hc => List.mem_takeWhile_imp hc, fun c hc => ?_, ?_⟩
  · exact List.mem_takeWhile_imp (List.mem_reverse.1 hc)
  · rw [← hright, stripLeft, List.takeWhile_append_dropWhile]

theorem isTrimmed_of_forall (h : ∀ c ∈ cs, isBlank c = false) : IsTrimmed cs :=
  ⟨fun c hc => h c (List.mem_of_mem_head? hc), fun c hc => h c (List.mem_of_mem_getLast? hc)⟩

end Chatline.Text
