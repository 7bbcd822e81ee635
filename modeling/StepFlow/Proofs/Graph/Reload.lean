import StepFlow.Proofs.Graph.WellFormed

namespace StepFlow

theorem repairedSteps_of_kept {steps : List Step}
    (kept : ∀ place step, steps[place]? = some step → ¬ LosesParent steps place step) :
    repairedSteps steps = steps := by
  apply List.ext_getElem?
  intro place
  rw [repairedSteps, List.getElem?_mapIdx]
  cases here : steps[place]? with
  | none => rfl
  | some step => rw [Option.map_some, if_neg (kept place step here)]

theorem keptConnections_of_ends {ids : List StepId} {connections : List Connection}
    (distinct : connections.Nodup)
    (ends : ∀ connection ∈ connections, connection.source ∈ ids ∧ connection.target ∈ ids) :
    keptConnections ids connections = connections := by
  have allKept : connections.filter (fun c =>
      decide (c.source ∈ ids) && decide (c.target ∈ ids)) = connections := by
    refine List.filter_eq_self.mpr fun connection member => ?_
    simpa using ends connection member
  rw [keptConnections_eq, allKept, eraseDups_of_nodup distinct]

namespace Graph

theorem Indexed.index_eq {left right : Graph} (indexed : left.Indexed) (indexedToo : right.Indexed)
    (sameIds : left.ids = right.ids) : left.index = right.index := by
  apply TextMap.ext_get?
  intro text
  apply Option.ext
  intro place
  have inLeft := indexed ⟨text⟩ place
  have inRight := indexedToo ⟨text⟩ place
  rw [sameIds] at inLeft
  exact inLeft.trans inRight.symm

namespace WellFormed

variable {graph : Graph} (wellFormed : graph.WellFormed)

include wellFormed

/-- All parents are steps and no step lies on a cycle, so every step keeps its parent. -/
theorem not_losesParent {place : Nat} {step : Step} (here : graph.steps[place]? = some step) :
    ¬ LosesParent graph.steps place step := by
  have member := List.mem_of_getElem? here
  intro loses
  cases loses with
  | missing set absent => exact absent (wellFormed.parentsExist step member _ set)
  | cyclic onCycle _ =>
      have cycle : graph.parentLinks.Behind step.id step.id :=
        Relation.TransGen.mono
          (fun _ _ link => wellFormed.indexed.parent?_eq_some_iff.mpr link) _ _ onCycle.1
      exact wellFormed.acyclic step.id cycle

theorem ofParts_self : ofParts graph.steps graph.connections =
    .ok { graph with counter := graph.size, debounce := {} } := by
  obtain ⟨loaded, succeeded, parts⟩ := ofParts_ok graph.connections wellFormed.distinctIds
  have sameSteps : loaded.steps = graph.steps := by
    rw [parts.stepsEq, repairedSteps_of_kept fun _ _ => wellFormed.not_losesParent]
  have sameConnections : loaded.connections = graph.connections :=
    parts.connectionsEq.trans
      (keptConnections_of_ends wellFormed.distinctConnections wellFormed.endsExist)
  have sameIndex : loaded.index = graph.index :=
    parts.indexed.index_eq wellFormed.indexed parts.ids_eq
  rw [succeeded]
  cases loaded with
  | mk steps index connections counter debounce =>
      cases sameSteps
      cases sameConnections
      cases sameIndex
      cases parts.counterEq
      cases parts.debounceEq
      rfl

end WellFormed

end Graph

end StepFlow
