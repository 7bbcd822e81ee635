import StepFlow.Proofs.Dictionary
import StepFlow.Proofs.Table.Rows
import StepFlow.Table.Basic

/-!
What a table depends on. Its paths depend on the ids, the connections and the roles of the steps
(`SamePaths`), and all that is written about them on the labels of states and rules and on the
names of those that have none (`SameCells.compile_eq`).
-/
namespace StepFlow

attribute [ext] Chain

structure Chain.SameSteps (old new : Chain) : Prop where
  outcome : new.outcome = old.outcome
  destinationStep : new.destinationStep = old.destinationStep
  ruleSteps : new.ruleSteps = old.ruleSteps
  walked : new.walked = old.walked

namespace Flow

theorem branchings_eq_filterMap (flow : Flow) : flow.branchings = flow.graph.ids.filterMap fun id =>
    if !flow.hasRole .state id && (flow.graph.outgoing id).length > 1 then
      some (.branchingStep id (flow.graph.outgoing id).length) else none := by
  rw [branchings, Graph.ids, List.filterMap_map]
  rfl

structure SamePaths (before after : Flow) : Prop where
  ids : after.graph.ids = before.graph.ids
  connections : after.graph.connections = before.graph.connections
  roles : ∀ id ∈ before.graph.ids, after.roles.roleOf id = before.roles.roleOf id

namespace SamePaths

variable {before after : Flow} (same : before.SamePaths after)

include same

theorem hasRole_eq (role : Role) {id : StepId} (isStep : id ∈ before.graph.ids) :
    after.hasRole role id = before.hasRole role id := by
  rw [hasRole, hasRole, same.roles id isStep]

theorem outgoing_eq (id : StepId) : after.graph.outgoing id = before.graph.outgoing id := by
  rw [Graph.outgoing, Graph.outgoing, same.connections]

theorem states_eq : after.states = before.states := by
  calc
    after.states = before.graph.ids.filter (after.hasRole .state) :=
      congrArg (List.filter (after.hasRole .state)) same.ids
    _ = before.states := List.filter_congr fun id isStep => same.hasRole_eq .state isStep

theorem branchings_eq : after.branchings = before.branchings := by
  rw [branchings_eq_filterMap, branchings_eq_filterMap, same.ids]
  refine List.filterMap_congr fun id isStep => ?_
  rw [same.hasRole_eq .state isStep, same.outgoing_eq]

variable (wellFormed : before.graph.WellFormed)

include wellFormed

/-- Connections lead to steps only, and steps have the same roles in both flows. -/
theorem chainWalk_eq {start : StepId} (isStep : start ∈ before.graph.ids) :
    after.chainWalk start = before.chainWalk start := by
  have sameNext (id : StepId) : after.graph.successor? id = before.graph.successor? id := by
    rw [Graph.successor?, Graph.successor?, same.connections]
  have walks : after.graph.chainLinks.walk (after.hasRole .state) (id start) =
      (before.graph.chainLinks.walk (before.hasRole .state) start).map id :=
    Links.walk_map (· ∈ before.graph.ids) Function.injective_id
      (fun inside link => mem_ids_of_nth wellFormed (n := 1) inside link)
      (fun _ => (sameNext _).trans Option.map_id'.symm) (same.hasRole_eq .state) isStep
  exact walks.trans (Walk.map_id _)

theorem ruleSteps_eq {start : StepId} (isStep : start ∈ before.graph.ids) :
    (before.chainWalk start).met.filter (after.hasRole .rule) =
      (before.chainWalk start).met.filter (before.hasRole .rule) := by
  have follows := before.graph.chainLinks.walk_follows (before.hasRole .state) start
  refine List.filter_congr fun id met => same.hasRole_eq .rule ?_
  rcases (follows.mem_iff id).mp met with ⟨n, -, here⟩
  exact mem_ids_of_nth wellFormed isStep here

theorem resolve_sameSteps {connection : Connection}
    (isStep : connection.target ∈ before.graph.ids) :
    (before.resolve connection).SameSteps (after.resolve connection) := by
  rw [resolve, resolve, same.hasRole_eq .state isStep]
  split
  · exact ⟨rfl, rfl, rfl, rfl⟩
  · rw [same.chainWalk_eq wellFormed isStep]
    exact ⟨rfl, rfl, same.ruleSteps_eq wellFormed isStep, rfl⟩

end SamePaths

def LabelledAlike (before after : Flow) (role : Role) (id : StepId) : Prop :=
  (after.dictionaries.labels role).get? (after.graph.qualifiedName id) =
      (before.dictionaries.labels role).get? (before.graph.qualifiedName id) ∧
    ((before.dictionaries.labels role).get? (before.graph.qualifiedName id) = none →
      after.graph.qualifiedName id = before.graph.qualifiedName id)

namespace LabelledAlike

variable {before after : Flow} {role : Role} {id : StepId}

theorem getD_eq (alike : before.LabelledAlike after role id) (unknown : String → String) :
    ((after.dictionaries.labels role).get? (after.graph.qualifiedName id)).getD
        (unknown (after.graph.qualifiedName id)) =
      ((before.dictionaries.labels role).get? (before.graph.qualifiedName id)).getD
        (unknown (before.graph.qualifiedName id)) := by
  rw [alike.1]
  cases here : (before.dictionaries.labels role).get? (before.graph.qualifiedName id) with
  | none => rw [alike.2 here]
  | some label => rfl

theorem findings_eq (alike : before.LabelledAlike after role id) (unknown : String → Finding) :
    (if (after.dictionaries.labels role).contains (after.graph.qualifiedName id) then []
      else [unknown (after.graph.qualifiedName id)]) =
      if (before.dictionaries.labels role).contains (before.graph.qualifiedName id) then []
      else [unknown (before.graph.qualifiedName id)] := by
  rw [TextMap.contains, TextMap.contains, alike.1]
  split
  · rfl
  · rename_i missing
    rw [alike.2 (Option.not_isSome_iff_eq_none.mp missing)]

theorem stateLabel_eq (alike : before.LabelledAlike after .state id) :
    after.stateLabel id = before.stateLabel id := alike.getD_eq unknownStateLabel

theorem ruleLabel_eq (alike : before.LabelledAlike after .rule id) :
    after.ruleLabel id = before.ruleLabel id := alike.getD_eq unknownRuleLabel

theorem stateFindings_eq (alike : before.LabelledAlike after .state id) :
    after.stateFindings id = before.stateFindings id := alike.findings_eq .unknownState

theorem ruleFindings_eq (alike : before.LabelledAlike after .rule id) :
    after.ruleFindings id = before.ruleFindings id := alike.findings_eq .unknownRule

end LabelledAlike

/-- The same paths, on which states and rules are labelled alike. Labels of behaviors are never
looked up. -/
structure SameCells (before after : Flow) : Prop extends before.SamePaths after where
  labels : ∀ id ∈ before.graph.ids, before.roles.roleOf id ≠ .behavior →
    before.LabelledAlike after (before.roles.roleOf id) id

namespace SameCells

variable {before after : Flow} (same : before.SameCells after)

include same

theorem labels_of_hasRole {role : Role} (hasLabels : role ≠ .behavior) {id : StepId}
    (isStep : id ∈ before.graph.ids) (itsRole : before.hasRole role id = true) :
    before.LabelledAlike after role id := by
  obtain rfl : before.roles.roleOf id = role := of_decide_eq_true itsRole
  exact same.labels id isStep hasLabels

theorem labels_of_state {state : StepId} (isState : before.IsState state) :
    before.LabelledAlike after .state state :=
  same.labels_of_hasRole (by decide) isState.1 isState.2

section Chains

variable (wellFormed : before.graph.WellFormed) {connection : Connection}
  (isStep : connection.target ∈ before.graph.ids)

include wellFormed isStep

theorem labels_of_ruleStep {rule : StepId} (inside : rule ∈ (before.resolve connection).ruleSteps) :
    before.LabelledAlike after .rule rule := by
  rcases mem_ids_of_mem_ruleSteps wellFormed isStep inside with ⟨ruleIsStep, isRule⟩
  exact same.labels_of_hasRole (by decide) ruleIsStep isRule

theorem labels_of_destination {state : StepId}
    (reached : (before.resolve connection).destinationStep = some state) :
    before.LabelledAlike after .state state :=
  same.labels_of_state (isState_of_destination wellFormed isStep reached)

theorem resolve_eq : after.resolve connection = before.resolve connection := by
  have sameSteps := same.resolve_sameSteps wellFormed isStep
  have destination : (after.resolve connection).destination =
      (before.resolve connection).destination := by
    rw [(after.resolves connection).destination, (before.resolves connection).destination,
      sameSteps.destinationStep]
    cases reached : (before.resolve connection).destinationStep with
    | none => rfl
    | some id => exact (same.labels_of_destination wellFormed isStep reached).stateLabel_eq
  have ruleList : (after.resolve connection).ruleList = (before.resolve connection).ruleList := by
    rw [(after.resolves connection).ruleList, (before.resolves connection).ruleList,
      sameSteps.ruleSteps]
    refine congrArg _ (List.map_congr_left fun id inside => ?_)
    exact (same.labels_of_ruleStep wellFormed isStep inside).ruleLabel_eq
  exact Chain.ext ruleList destination sameSteps.destinationStep sameSteps.ruleSteps
    sameSteps.walked sameSteps.outcome

theorem chainFindings_eq (source : StepId) :
    after.chainFindings source (before.resolve connection) =
      before.chainFindings source (before.resolve connection) := by
  have destination : (before.resolve connection).destinationStep.toList.flatMap
      after.stateFindings = (before.resolve connection).destinationStep.toList.flatMap
        before.stateFindings := by
    refine List.flatMap_congr fun state reached => ?_
    rw [Option.mem_toList] at reached
    exact (same.labels_of_destination wellFormed isStep reached).stateFindings_eq
  have rules : (before.resolve connection).ruleSteps.flatMap after.ruleFindings =
      (before.resolve connection).ruleSteps.flatMap before.ruleFindings :=
    List.flatMap_congr fun rule inside =>
      (same.labels_of_ruleStep wellFormed isStep inside).ruleFindings_eq
  rw [chainFindings, chainFindings, destination, rules]

end Chains

section Rows

variable (wellFormed : before.graph.WellFormed) (priority : Priority)

include wellFormed

theorem rowsOf_eq {state : StepId} (isState : before.IsState state) :
    after.rowsOf priority state = before.rowsOf priority state := by
  have sameSource := (same.labels_of_state isState).stateLabel_eq
  rw [Flow.rowsOf_eq, Flow.rowsOf_eq, same.outgoing_eq]
  split
  · rw [terminalRow, terminalRow, sameSource]
  · refine List.map_congr_left fun connection leaves => ?_
    have stored := ((before.mem_outgoing state connection).mp leaves).1
    rw [rowOf, rowOf, sameSource,
      same.resolve_eq wellFormed (wellFormed.endsExist connection stored).2]

theorem rows_eq : after.rows priority = before.rows priority := by
  rw [rows, rows, same.states_eq]
  exact List.flatMap_congr fun state member =>
    same.rowsOf_eq wellFormed priority ((before.mem_states state).mp member)

theorem rowFindings_eq {generated : GeneratedRow} (member : generated ∈ before.rows priority) :
    after.rowFindings generated = before.rowFindings generated := by
  rcases (before.mem_rows_iff priority generated).mp member with ⟨state, isState, inside⟩
  have atSource := (same.labels_of_state isState).stateFindings_eq
  rcases (before.mem_rowsOf_iff priority state generated).mp inside with
    ⟨-, rfl⟩ | ⟨connection, stored, -, rfl⟩
  · simp only [rowFindings, terminalRow, atSource, Option.toList_none, List.flatMap_nil]
  · have inChain := same.chainFindings_eq wellFormed (wellFormed.endsExist connection stored).2 state
    simp only [rowFindings, rowOf, atSource, Option.toList_some, List.flatMap_singleton, inChain]

theorem compile_eq : after.compile priority = before.compile priority := by
  have findings : (before.rows priority).flatMap after.rowFindings =
      (before.rows priority).flatMap before.rowFindings :=
    List.flatMap_congr fun _ member => same.rowFindings_eq wellFormed priority member
  rw [compile, compile, same.rows_eq wellFormed, same.branchings_eq, findings]

end Rows

end SameCells

end Flow

end StepFlow
