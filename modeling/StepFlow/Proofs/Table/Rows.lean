import StepFlow.Proofs.Chain
import StepFlow.Table.Row

namespace StepFlow.Flow

variable (flow : Flow) (priority : Priority)

def IsState (id : StepId) : Prop := id ∈ flow.graph.ids ∧ flow.hasRole .state id = true

theorem mem_states (id : StepId) : id ∈ flow.states ↔ flow.IsState id := List.mem_filter

theorem mem_outgoing (id : StepId) (connection : Connection) :
    connection ∈ flow.graph.outgoing id ↔
      connection ∈ flow.graph.connections ∧ connection.source = id := by
  simp [Graph.outgoing]

def terminalRow (state : StepId) : GeneratedRow :=
  { row := .terminal (flow.stateLabel state) priority, source := state, chain := none }

theorem rowsOf_eq (state : StepId) : flow.rowsOf priority state =
    if flow.graph.outgoing state = [] then [flow.terminalRow priority state]
    else (flow.graph.outgoing state).map (flow.rowOf priority state) := by
  rw [rowsOf]
  split
  · rename_i none
    rw [if_pos none, terminalRow]
  · rename_i some
    rw [if_neg some]

theorem mem_rowsOf_iff (state : StepId) (generated : GeneratedRow) :
    generated ∈ flow.rowsOf priority state ↔
      (flow.graph.outgoing state = [] ∧ generated = flow.terminalRow priority state) ∨
        ∃ connection ∈ flow.graph.connections, connection.source = state ∧
          generated = flow.rowOf priority state connection := by
  rw [rowsOf_eq]
  by_cases none : flow.graph.outgoing state = []
  · have noConnection : ¬ ∃ connection ∈ flow.graph.connections, connection.source = state ∧
        generated = flow.rowOf priority state connection := by
      rintro ⟨connection, member, leaves, -⟩
      have inside := (flow.mem_outgoing state connection).mpr ⟨member, leaves⟩
      rw [none] at inside
      cases inside
    rw [if_pos none, List.mem_singleton, and_iff_right none, or_iff_left noConnection]
  · rw [if_neg none, List.mem_map]
    simp only [none, false_and, false_or, mem_outgoing, and_assoc, eq_comm]

theorem source_of_mem_rowsOf {state : StepId} {generated : GeneratedRow}
    (member : generated ∈ flow.rowsOf priority state) : generated.source = state := by
  rcases (flow.mem_rowsOf_iff priority state generated).mp member with
    ⟨-, rfl⟩ | ⟨connection, -, -, rfl⟩
  · rfl
  · rfl

theorem rowsOf_ne_nil (state : StepId) : flow.rowsOf priority state ≠ [] := by
  rw [rowsOf_eq]
  by_cases none : flow.graph.outgoing state = [] <;> simp [none]

theorem mem_rows_iff (generated : GeneratedRow) : generated ∈ flow.rows priority ↔
    ∃ state, flow.IsState state ∧ generated ∈ flow.rowsOf priority state := by
  simp only [rows, List.mem_flatMap, mem_states]

variable {flow}

theorem mem_ids_of_mem_ruleSteps (wellFormed : flow.graph.WellFormed) {connection : Connection}
    (isStep : connection.target ∈ flow.graph.ids) {id : StepId}
    (member : id ∈ (flow.resolve connection).ruleSteps) :
    id ∈ flow.graph.ids ∧ flow.hasRole .rule id = true := by
  obtain ⟨passed, passes, filtered, -⟩ := (flow.resolves connection).steps
  rw [filtered] at member
  obtain ⟨inside, isRule⟩ := List.mem_filter.mp member
  obtain ⟨n, here, -⟩ := (passes.beforeState id).mp inside
  exact ⟨mem_ids_of_nth wellFormed isStep here, isRule⟩

theorem isState_of_destination (wellFormed : flow.graph.WellFormed) {connection : Connection}
    (isStep : connection.target ∈ flow.graph.ids) {id : StepId}
    (reached : (flow.resolve connection).destinationStep = some id) : flow.IsState id := by
  obtain ⟨n, here, isState, -⟩ := ((flow.resolves connection).destinationStep id).mp reached
  exact ⟨mem_ids_of_nth wellFormed isStep here, isState⟩

end StepFlow.Flow
