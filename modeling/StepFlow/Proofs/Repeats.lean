import Mathlib.Data.List.Induction
import Mathlib.Data.List.Nodup

namespace StepFlow

theorem eraseDups_filter {α : Type} [DecidableEq α] (keep : α → Bool) (xs : List α) :
    (xs.filter keep).eraseDups =
      (xs.zipIdx.filter fun (x, place) => keep x && x ∉ xs.take place).map (·.1) := by
  induction xs using List.reverseRecOn with
  | nil => rfl
  | append_singleton front last ih =>
      have inFront : (front.zipIdx.filter fun (x, place) =>
            keep x && x ∉ (front ++ [last]).take place) =
          front.zipIdx.filter fun (x, place) => keep x && x ∉ front.take place := by
        refine List.filter_congr fun entry member => ?_
        have inside : entry.2 < front.length := by simpa using List.snd_lt_of_mem_zipIdx member
        dsimp only
        rw [List.take_append_of_le_length (Nat.le_of_lt inside)]
      rw [List.filter_append, List.eraseDups_append, ih, List.zipIdx_append, List.filter_append,
        List.map_append, inFront]
      congr 1
      by_cases kept : keep last = true
      · by_cases again : last ∈ front <;> simp [kept, again, List.removeAll, List.eraseDups_cons]
      · simp [kept, List.removeAll]

theorem eraseDups_map {α β : Type} [DecidableEq α] [DecidableEq β] {f : α → β}
    (injective : Function.Injective f) (xs : List α) :
    (xs.map f).eraseDups = xs.eraseDups.map f := by
  induction xs using List.reverseRecOn with
  | nil => rfl
  | append_singleton front last ih =>
      rw [List.map_append, List.eraseDups_append, List.eraseDups_append, ih, List.map_append]
      by_cases again : last ∈ front <;>
        simp [List.removeAll, injective.eq_iff, again, List.eraseDups_cons]

theorem nodup_eraseDups {α : Type} [DecidableEq α] (xs : List α) : xs.eraseDups.Nodup := by
  induction xs using List.reverseRecOn with
  | nil => exact List.nodup_nil
  | append_singleton front last ih =>
      rw [List.eraseDups_append]
      by_cases again : last ∈ front
      · simpa [List.removeAll, again] using ih
      · refine List.nodup_append.mpr ⟨ih, by simp [List.removeAll, again, List.eraseDups_cons], ?_⟩
        intro a inside b atEnd
        have atLast : b = last := by simpa [List.removeAll, again, List.eraseDups_cons] using atEnd
        rw [atLast]
        exact ne_of_mem_of_not_mem (List.mem_eraseDups.mp inside) again

theorem eraseDups_of_nodup {α : Type} [DecidableEq α] {xs : List α} (distinct : xs.Nodup) :
    xs.eraseDups = xs := by
  induction xs with
  | nil => rfl
  | cons first rest ih =>
      obtain ⟨absent, distinctRest⟩ := List.nodup_cons.mp distinct
      have noneDropped : rest.filter (fun b => !b == first) = rest := by
        refine List.filter_eq_self.mpr fun b member => ?_
        simpa using ne_of_mem_of_not_mem member absent
      rw [List.eraseDups_cons, noneDropped, ih distinctRest]

end StepFlow
