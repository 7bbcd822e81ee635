import Mathlib.Data.List.Basic
import StepFlow.Text.Blank

namespace StepFlow.Text

structure Trimmed (text : List Char) : Prop where
  first : ∀ c ∈ text.head?, isBlank c = false
  last : ∀ c ∈ text.getLast?, isBlank c = false

theorem trimStart_eq_self {text : List Char} (first : ∀ c ∈ text.head?, isBlank c = false) :
    trimStart text = text := by
  cases text with
  | nil => rfl
  | cons c rest => exact List.dropWhile_cons_of_neg (by simp [first c rfl])

theorem Trimmed.trim_eq {text : List Char} (trimmed : Trimmed text) : trim text = text := by
  have last : ∀ c ∈ text.reverse.head?, isBlank c = false := by
    rw [List.head?_reverse]
    exact trimmed.last
  rw [trim, trimStart_eq_self trimmed.first, trimEnd, trimStart_eq_self last, List.reverse_reverse]

theorem head?_trimStart (text : List Char) : ∀ c ∈ (trimStart text).head?, isBlank c = false := by
  intro c leads
  have stopped := List.head?_dropWhile_not isBlank text
  rw [← trimStart, Option.mem_def.mp leads] at stopped
  exact stopped

theorem trimmed_trim (text : List Char) : Trimmed (trim text) where
  first c leads := by
    have shorter : trim text <+: trimStart text := by
      rw [trim, trimEnd, ← List.reverse_suffix, List.reverse_reverse]
      exact List.dropWhile_suffix isBlank
    obtain ⟨more, whole⟩ := shorter
    apply head?_trimStart text c
    rw [← whole, List.head?_append, Option.mem_def.mp leads]
    rfl
  last c ends := by
    rw [trim, trimEnd, List.getLast?_reverse] at ends
    exact head?_trimStart _ c ends

end StepFlow.Text
