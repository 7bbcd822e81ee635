import Std.Data.String.ToNat
import StepFlow.Proofs.Graph.Index

namespace StepFlow

theorem StepId.numbered_inj {left right : Nat} :
    StepId.numbered left = StepId.numbered right ↔ left = right := by
  constructor
  · intro same
    have texts : "step-" ++ left.repr = "step-" ++ right.repr := congrArg StepId.text same
    exact Nat.repr_inj.mp (String.append_right_inj _ |>.mp texts)
  · intro same
    subst same
    rfl

namespace Graph

variable {graph : Graph}

theorem exists_free_number (graph : Graph) :
    ∃ number ∈ List.range' (graph.counter + 1) (graph.size + 1),
      StepId.numbered number ∉ graph.ids := by
  by_contra allTaken
  push Not at allTaken
  have candidates : ((List.range' (graph.counter + 1) (graph.size + 1)).map
      StepId.numbered).Nodup :=
    List.Nodup.map (fun _ _ => StepId.numbered_inj.mp) List.nodup_range'
  have inside : (List.range' (graph.counter + 1) (graph.size + 1)).map StepId.numbered ⊆
      graph.ids := by
    intro id member
    rcases List.mem_map.mp member with ⟨number, among, rfl⟩
    exact allTaken number among
  have tooMany := candidates.length_le_of_subset inside
  rw [List.length_map, List.length_range', length_ids] at tooMany
  omega

theorem Indexed.freshNumber_least (indexed : graph.Indexed) :
    graph.counter < graph.freshNumber ∧ StepId.numbered graph.freshNumber ∉ graph.ids ∧
      ∀ number, graph.counter < number → number < graph.freshNumber →
        StepId.numbered number ∈ graph.ids := by
  have free (number : Nat) : (!graph.contains (.numbered number)) = true ↔
      StepId.numbered number ∉ graph.ids := by
    rw [Bool.not_eq_true', ← Bool.not_eq_true, indexed.contains_iff]
  cases found : (List.range' (graph.counter + 1) (graph.size + 1)).find?
      fun number => !graph.contains (.numbered number) with
  | none =>
      rcases exists_free_number graph with ⟨number, among, unused⟩
      exact absurd ((free number).mpr unused) (List.find?_eq_none.mp found number among)
  | some number =>
      have chosen : graph.freshNumber = number := by rw [freshNumber, found, Option.getD_some]
      rcases List.find?_range'_eq_some.mp found with ⟨unused, among, least⟩
      rw [chosen]
      refine ⟨(List.mem_range'_1.mp among).1, (free number).mp unused, ?_⟩
      intro earlier above before
      have taken := least earlier above before
      rw [Bool.not_not] at taken
      exact (indexed.contains_iff _).mp taken

end Graph

end StepFlow
