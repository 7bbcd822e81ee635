import Mathlib.Data.List.Forall2
import StepFlow.Proofs.Table.Paths

namespace StepFlow

def TextMap.Within {α : Type} (small large : TextMap α) : Prop :=
  ∀ key value, small.get? key = some value → large.get? key = some value

namespace Flow

structure Relabelled (before after : Flow) : Prop where
  graph : after.graph = before.graph
  roles : ∀ id ∈ before.graph.ids, after.roles.roleOf id = before.roles.roleOf id
  stateLabels : before.dictionaries.state.Within after.dictionaries.state
  ruleLabels : before.dictionaries.rule.Within after.dictionaries.rule

def HasStateLabel (flow : Flow) (id : StepId) : Prop :=
  flow.dictionaries.state.contains (flow.graph.qualifiedName id) = true

def HasRuleLabel (flow : Flow) (id : StepId) : Prop :=
  flow.dictionaries.rule.contains (flow.graph.qualifiedName id) = true

/-- The rows stand for the same path, and a cell is the same if all names in it had labels. -/
structure KeptWhereLabelled (before : Flow) (old new : GeneratedRow) : Prop where
  source : new.source = old.source
  chain : Option.Rel Chain.SameSteps old.chain new.chain
  priority : new.row.priority = old.row.priority
  operation : new.row.operation = old.row.operation
  sourceCell : before.HasStateLabel old.source → new.row.source = old.row.source
  destinationCell : (∀ chain id, old.chain = some chain → chain.destinationStep = some id →
    before.HasStateLabel id) → new.row.destination = old.row.destination
  ruleCell : (∀ chain, old.chain = some chain → ∀ id ∈ chain.ruleSteps, before.HasRuleLabel id) →
    new.row.ruleList = old.row.ruleList

namespace Relabelled

variable {before after : Flow} (relabelled : before.Relabelled after)

include relabelled

theorem stateLabel_eq {id : StepId} (hasLabel : before.HasStateLabel id) :
    after.stateLabel id = before.stateLabel id := by
  rcases (TextMap.contains_iff _ _).mp hasLabel with ⟨label, here⟩
  have there := relabelled.stateLabels _ _ here
  rw [stateLabel, stateLabel, relabelled.graph, Dictionaries.stateLabel, Dictionaries.stateLabel,
    here, there]

theorem ruleLabel_eq {id : StepId} (hasLabel : before.HasRuleLabel id) :
    after.ruleLabel id = before.ruleLabel id := by
  rcases (TextMap.contains_iff _ _).mp hasLabel with ⟨label, here⟩
  have there := relabelled.ruleLabels _ _ here
  rw [ruleLabel, ruleLabel, relabelled.graph, Dictionaries.ruleLabel, Dictionaries.ruleLabel,
    here, there]

theorem samePaths : before.SamePaths after where
  ids := by rw [relabelled.graph]
  connections := by rw [relabelled.graph]
  roles := relabelled.roles

section Resolve

variable (wellFormed : before.graph.WellFormed)

include wellFormed

theorem resolve_destination {connection : Connection}
    (isStep : connection.target ∈ before.graph.ids)
    (labelled : ∀ id, (before.resolve connection).destinationStep = some id →
      before.HasStateLabel id) :
    (after.resolve connection).destination = (before.resolve connection).destination := by
  have sameStep := (relabelled.samePaths.resolve_sameSteps wellFormed isStep).destinationStep
  rw [(after.resolves connection).destination, (before.resolves connection).destination, sameStep]
  cases reached : (before.resolve connection).destinationStep with
  | none => rfl
  | some id => exact relabelled.stateLabel_eq (labelled id reached)

theorem resolve_ruleList {connection : Connection}
    (isStep : connection.target ∈ before.graph.ids)
    (labelled : ∀ id ∈ (before.resolve connection).ruleSteps, before.HasRuleLabel id) :
    (after.resolve connection).ruleList = (before.resolve connection).ruleList := by
  have sameSteps := (relabelled.samePaths.resolve_sameSteps wellFormed isStep).ruleSteps
  rw [(after.resolves connection).ruleList, (before.resolves connection).ruleList, sameSteps]
  have sameLabels : ∀ id ∈ (before.resolve connection).ruleSteps,
      after.ruleLabel id = before.ruleLabel id :=
    fun id member => relabelled.ruleLabel_eq (labelled id member)
  exact congrArg _ (List.map_congr_left sameLabels)

theorem rowOf_kept (priority : Priority) (state : StepId) {connection : Connection}
    (isStep : connection.target ∈ before.graph.ids) :
    before.KeptWhereLabelled (before.rowOf priority state connection)
      (after.rowOf priority state connection) where
  source := rfl
  chain := .some (relabelled.samePaths.resolve_sameSteps wellFormed isStep)
  priority := rfl
  operation := rfl
  sourceCell := relabelled.stateLabel_eq
  destinationCell labelled :=
    relabelled.resolve_destination wellFormed isStep fun id => labelled _ id rfl
  ruleCell labelled := relabelled.resolve_ruleList wellFormed isStep (labelled _ rfl)

theorem rowsOf_kept (priority : Priority) (state : StepId) :
    List.Forall₂ before.KeptWhereLabelled (before.rowsOf priority state)
      (after.rowsOf priority state) := by
  rw [rowsOf_eq, rowsOf_eq, relabelled.graph]
  split
  · have terminal : before.KeptWhereLabelled (before.terminalRow priority state)
        (after.terminalRow priority state) :=
      ⟨rfl, .none, rfl, rfl, relabelled.stateLabel_eq, fun _ => rfl, fun _ => rfl⟩
    exact .cons terminal .nil
  · rw [List.forall₂_map_left_iff, List.forall₂_map_right_iff, List.forall₂_same]
    intro connection leaves
    have stored := ((before.mem_outgoing state connection).mp leaves).1
    exact relabelled.rowOf_kept wellFormed priority state
      (wellFormed.endsExist connection stored).2

theorem rows (priority : Priority) :
    List.Forall₂ before.KeptWhereLabelled (before.rows priority) (after.rows priority) := by
  have states : List.Forall₂ (fun old new => new = old) before.states after.states := by
    rw [relabelled.samePaths.states_eq]
    exact List.forall₂_same.mpr fun _ _ => rfl
  refine List.rel_flatMap states ?_
  rintro _ state rfl
  exact relabelled.rowsOf_kept wellFormed priority state

end Resolve

end Relabelled

end Flow

end StepFlow
