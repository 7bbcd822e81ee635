namespace StepFlow

variable {ε α β : Type}

theorem bind_eq_ok_iff {action : Except ε α} {next : α → Except ε β} {result : β} :
    action >>= next = .ok result ↔ ∃ value, action = .ok value ∧ next value = .ok result := by
  cases action with
  | error error => exact ⟨nofun, nofun⟩
  | ok value =>
      constructor
      · exact fun succeeded => ⟨value, rfl, succeeded⟩
      · rintro ⟨_, ⟨⟩, succeeded⟩
        exact succeeded

theorem mapError_eq_ok_iff {δ : Type} {outcome : Except ε α} {change : ε → δ} {value : α} :
    outcome.mapError change = .ok value ↔ outcome = .ok value := by
  cases outcome with
  | error error => exact ⟨nofun, nofun⟩
  | ok found =>
      constructor <;> rintro ⟨⟩
      · rfl
      · rfl

theorem foldlM_ok_mono {step stepToo : β → α → Except ε β}
    (within : ∀ state item next, step state item = .ok next → stepToo state item = .ok next)
    {items : List α} {start result : β} (succeeded : items.foldlM step start = .ok result) :
    items.foldlM stepToo start = .ok result := by
  induction items generalizing start with
  | nil => exact succeeded
  | cons item rest ih =>
      rw [List.foldlM_cons, bind_eq_ok_iff] at succeeded ⊢
      rcases succeeded with ⟨next, stepped, later⟩
      exact ⟨next, within start item next stepped, ih later⟩

end StepFlow
