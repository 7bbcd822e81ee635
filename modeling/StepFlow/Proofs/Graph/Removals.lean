import StepFlow.Proofs.Graph.Descent
import StepFlow.Proofs.Graph.Reload

namespace StepFlow

def Step.without (step : Step) (gone : List StepId) : Step :=
  if ∃ parent ∈ gone, step.parent = some parent then step.asRoot else step

theorem Step.id_without (step : Step) (gone : List StepId) : (step.without gone).id = step.id := by
  rw [without]
  split <;> rfl

theorem Step.without_of_apart {step : Step} {gone : List StepId}
    (apart : ∀ parent ∈ gone, step.parent ≠ some parent) : step.without gone = step := by
  apply if_neg
  intro given
  rcases given with ⟨parent, member, above⟩
  exact apart parent member above

theorem Step.without_append (step : Step) (gone later : List StepId) :
    step.without (gone ++ later) = (step.without gone).without later := by
  by_cases first : ∃ parent ∈ gone, step.parent = some parent
  · have cleared : step.without gone = step.asRoot := if_pos first
    have stays : step.asRoot.without later = step.asRoot :=
      without_of_apart fun _ _ impossible => nomatch impossible
    rcases first with ⟨parent, member, above⟩
    rw [cleared, stays]
    exact if_pos ⟨parent, List.mem_append_left later member, above⟩
  · have kept : step.without gone = step := if_neg first
    have sameParents : (∃ parent ∈ gone ++ later, step.parent = some parent) ↔
        ∃ parent ∈ later, step.parent = some parent := by
      simp only [List.mem_append, or_and_right, exists_or]
      exact or_iff_right first
    rw [kept, without, without, if_congr sameParents rfl rfl]

theorem Step.without_singleton (step : Step) (id : StepId) :
    step.without [id] = step.orphan id := by
  rw [without, orphan]
  simp

namespace Graph

structure Without (graph : Graph) (gone : List StepId) (after : Graph) : Prop where
  steps : after.steps = (graph.steps.filter (·.id ∉ gone)).map (·.without gone)
  connections : after.connections = graph.connections.filter fun connection =>
    connection.source ∉ gone ∧ connection.target ∉ gone
  indexed : after.Indexed
  counter : after.counter = graph.counter
  debounce : after.debounce = graph.debounce

namespace Without

variable {graph middle after : Graph} {gone later : List StepId}

theorem append (first : graph.Without gone middle) (second : middle.Without later after) :
    graph.Without (gone ++ later) after where
  steps := by
    rw [second.steps, first.steps, List.filter_map, List.filter_filter, List.map_map]
    refine congrArg₂ List.map (funext fun step => (step.without_append gone later).symm)
      (List.filter_congr fun step _ => ?_)
    rw [Function.comp, Step.id_without, ← Bool.decide_and, decide_eq_decide, List.mem_append,
      not_or, and_comm]
  connections := by
    rw [second.connections, first.connections, List.filter_filter]
    refine List.filter_congr fun connection _ => ?_
    rw [← Bool.decide_and, decide_eq_decide, List.mem_append, List.mem_append]
    tauto
  indexed := second.indexed
  counter := second.counter.trans first.counter
  debounce := second.debounce.trans first.debounce

theorem unique {others : List StepId} {afterToo : Graph} (without : graph.Without gone after)
    (withoutToo : graph.Without others afterToo) (same : ∀ id, id ∈ gone ↔ id ∈ others) :
    after = afterToo := by
  have sameSteps : after.steps = afterToo.steps := by
    rw [without.steps, withoutToo.steps]
    simp only [same, Step.without]
  have sameConnections : after.connections = afterToo.connections := by
    rw [without.connections, withoutToo.connections]
    simp only [same]
  have sameIndex : after.index = afterToo.index :=
    without.indexed.index_eq withoutToo.indexed (by rw [ids, ids, sameSteps])
  have sameCounter := without.counter.trans withoutToo.counter.symm
  have sameDebounce := without.debounce.trans withoutToo.debounce.symm
  cases after
  cases afterToo
  simp_all

end Without

/-- Ids differ, so it is all one whether a step is taken out at its place or by its id. -/
theorem eraseIdx_eq_filter {steps : List Step} (distinct : (steps.map (·.id)).Nodup) {id : StepId}
    {place : Nat} (here : (steps.map (·.id))[place]? = some id) :
    steps.eraseIdx place = steps.filter (·.id ≠ id) := by
  induction steps generalizing place with
  | nil => cases here
  | cons first rest ih =>
      rcases List.nodup_cons.mp distinct with ⟨absent, distinctRest⟩
      cases place with
      | zero =>
          obtain rfl : first.id = id := Option.some.inj here
          have restKept : rest.filter (·.id ≠ first.id) = rest := by
            refine List.filter_eq_self.mpr fun step member => decide_eq_true ?_
            exact ne_of_mem_of_not_mem (List.mem_map_of_mem member) absent
          rw [List.eraseIdx_cons_zero, List.filter_cons_of_neg (by simp), restKept]
      | succ place =>
          have later : id ∈ rest.map (·.id) := List.mem_of_getElem? here
          have differs : first.id ≠ id := (ne_of_mem_of_not_mem later absent).symm
          rw [List.eraseIdx_cons_succ, List.filter_cons_of_pos (by simpa using differs),
            ih distinctRest here]

namespace WellFormed

variable {graph : Graph} (wellFormed : graph.WellFormed)

include wellFormed

theorem without_of_absent {gone : List StepId} (absent : ∀ id ∈ gone, id ∉ graph.ids) :
    graph.Without gone graph where
  steps := by
    have isStep {step : Step} (member : step ∈ graph.steps) : step.id ∈ graph.ids :=
      mem_ids.mpr ⟨step, member, rfl⟩
    have allKept : graph.steps.filter (·.id ∉ gone) = graph.steps := by
      refine List.filter_eq_self.mpr fun step member => decide_eq_true ?_
      intro isGone
      exact absent step.id isGone (isStep member)
    have parentsKept (step : Step) (member : step ∈ graph.steps) : step.without gone = step := by
      apply Step.without_of_apart
      intro parent isGone above
      exact absent parent isGone (wellFormed.parentsExist step member parent above)
    rw [allKept, List.map_congr_left parentsKept, List.map_id']
  connections := by
    refine (List.filter_eq_self.mpr fun connection member => decide_eq_true ?_).symm
    rcases wellFormed.endsExist connection member with ⟨source, target⟩
    exact ⟨fun isGone => absent _ isGone source, fun isGone => absent _ isGone target⟩
  indexed := wellFormed.indexed
  counter := rfl
  debounce := rfl

theorem without_removeAt {id : StepId} {place : Nat} (here : graph.place? id = some place) :
    graph.Without [id] (graph.removeAt id place) where
  steps := by
    have named := (wellFormed.indexed id place).mp here
    have erased := eraseIdx_eq_filter wellFormed.distinctIds named
    simp only [Graph.removeAt, erased, List.mem_singleton, Step.without_singleton]
  connections := by
    simp [Graph.removeAt, Connection.touches]
  indexed := wellFormed.indexed.removeAt here
  counter := rfl
  debounce := rfl

theorem without_apply_remove (id : StepId) :
    graph.Without [id] (graph.apply (.remove id)).2 := by
  cases here : graph.place? id with
  | some place =>
      rw [apply_remove here]
      exact wellFormed.without_removeAt here
  | none =>
      rw [apply, removeStep?, here]
      refine wellFormed.without_of_absent fun other isGone => ?_
      rw [List.mem_singleton.mp isGone]
      exact (wellFormed.indexed.place?_eq_none_iff id).mp here

theorem without_run (gone : List StepId) :
    graph.Without gone (graph.run (gone.map .remove)) := by
  induction gone generalizing graph with
  | nil => exact wellFormed.without_of_absent fun _ impossible => nomatch impossible
  | cons id rest ih =>
      have after := (change_apply graph (.remove id)).wellFormed wellFormed
      exact (wellFormed.without_apply_remove id).append (ih after)

end WellFormed

/-- A removal takes out the step, its connections and the links to it and nothing else, and one of
an unknown step does nothing. What several removals leave does not depend on their order. -/
theorem removals_exact {graph : Graph} (reachable : graph.Reachable) :
    (∀ id, graph.apply (.remove id) = (.changed false, graph) ↔ id ∉ graph.ids) ∧
    (∀ id ∈ graph.ids, ∃ after, graph.apply (.remove id) = (.changed true, after) ∧
      graph.Without [id] after ∧ after.step? id = none ∧
      ∀ other, other ≠ id → after.step? other = (graph.step? other).map (·.without [id])) ∧
    (∀ gone : List StepId, graph.Without gone (graph.run (gone.map .remove))) ∧
    ∀ gone others : List StepId, (∀ id, id ∈ gone ↔ id ∈ others) →
      graph.run (gone.map .remove) = graph.run (others.map .remove) := by
  have wellFormed := reachable.wellFormed
  have known (id : StepId) := wellFormed.indexed.contains_iff id
  refine ⟨fun id => ⟨?_, ?_⟩, ?_, wellFormed.without_run, ?_⟩
  · intro unchanged isStep
    have flag : Reply.changed (graph.contains id) = .changed false := congrArg Prod.fst unchanged
    rw [(known id).mpr isStep] at flag
    cases flag
  · intro absent
    have unknown : graph.contains id = false := Bool.eq_false_iff.mpr (mt (known id).mp absent)
    have noPlace := (wellFormed.indexed.place?_eq_none_iff id).mpr absent
    rw [apply, removeStep?, unknown, noPlace]
    rfl
  · intro id isStep
    rcases wellFormed.indexed.exists_place isStep with ⟨place, here⟩
    have lookup := wellFormed.indexed.step?_removeAt here
    refine ⟨_, apply_remove here, wellFormed.without_removeAt here, ?_, ?_⟩
    · rw [lookup, if_pos rfl]
    · intro other differs
      rw [lookup, if_neg differs]
      simp only [Step.without_singleton]
  · intro gone others same
    exact (wellFormed.without_run gone).unique (wellFormed.without_run others) same

theorem removals_exact_house : house.Reachable ∧
    (∀ id, id ∈ [hall.id, room.id] ↔ id ∈ [room.id, hall.id, room.id]) ∧
    house.run [.remove hall.id, .remove room.id] =
      house.run [.remove room.id, .remove hall.id, .remove room.id] ∧
    (house.run [.remove hall.id, .remove room.id]).steps = [shelf.asRoot] ∧
    (house.run [.remove hall.id, .remove room.id]).connections = [] := by
  have same : ∀ id, id ∈ [hall.id, room.id] ↔ id ∈ [room.id, hall.id, room.id] := by
    intro id
    simp only [List.mem_cons, List.not_mem_nil, or_false]
    tauto
  have orders := (removals_exact reachable_house).2.2.2 _ _ same
  exact ⟨reachable_house, same, orders, by decide +kernel, by decide +kernel⟩

end Graph

end StepFlow
