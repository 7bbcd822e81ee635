import Mathlib.Data.List.Nodup
import StepFlow.Proofs.Table.Rows

namespace StepFlow

inductive RowOrigin
  | connection (stored : Connection)
  | terminal (state : StepId)
  deriving DecidableEq, Repr

def RowOrigin.state : RowOrigin → StepId
  | connection stored => stored.source
  | terminal state => state

namespace Flow

section Origins

variable (flow : Flow) (priority : Priority)

def originsOf (state : StepId) : List RowOrigin :=
  if flow.graph.outgoing state = [] then [.terminal state]
  else (flow.graph.outgoing state).map .connection

def origins : List RowOrigin := flow.states.flatMap flow.originsOf

def rowFrom : RowOrigin → GeneratedRow
  | .connection connection => flow.rowOf priority connection.source connection
  | .terminal state => flow.terminalRow priority state

theorem rowsOf_eq_map_originsOf (state : StepId) :
    flow.rowsOf priority state = (flow.originsOf state).map (flow.rowFrom priority) := by
  rw [rowsOf_eq, originsOf]
  by_cases none : flow.graph.outgoing state = []
  · rw [if_pos none, if_pos none]
    rfl
  · rw [if_neg none, if_neg none, List.map_map]
    apply List.map_congr_left
    intro connection member
    obtain ⟨-, rfl⟩ := (flow.mem_outgoing state connection).mp member
    rfl

theorem rows_eq_map_origins :
    flow.rows priority = flow.origins.map (flow.rowFrom priority) := by
  rw [rows, origins, List.map_flatMap]
  exact List.flatMap_congr fun state _ => flow.rowsOf_eq_map_originsOf priority state

theorem state_of_mem_originsOf {state : StepId} {origin : RowOrigin}
    (member : origin ∈ flow.originsOf state) : origin.state = state := by
  rw [originsOf] at member
  by_cases none : flow.graph.outgoing state = []
  · rw [if_pos none] at member
    rw [List.mem_singleton.mp member]
    rfl
  · rw [if_neg none] at member
    obtain ⟨connection, inside, rfl⟩ := List.mem_map.mp member
    exact ((flow.mem_outgoing state connection).mp inside).2

variable {flow}

theorem nodup_originsOf (distinct : flow.graph.connections.Nodup) (state : StepId) :
    (flow.originsOf state).Nodup := by
  rw [originsOf]
  by_cases none : flow.graph.outgoing state = []
  · rw [if_pos none]
    exact List.nodup_singleton _
  · rw [if_neg none]
    refine (distinct.filter _).map ?_
    intro connection other same
    exact RowOrigin.connection.inj same

theorem nodup_origins (wellFormed : flow.graph.WellFormed) : flow.origins.Nodup := by
  refine List.nodup_flatMap.mpr
    ⟨fun state _ => nodup_originsOf wellFormed.distinctConnections state, ?_⟩
  have distinctStates : flow.states.Nodup := wellFormed.distinctIds.filter _
  refine distinctStates.imp fun differs origin left right => differs ?_
  calc
    _ = origin.state := (flow.state_of_mem_originsOf left).symm
    _ = _ := flow.state_of_mem_originsOf right

theorem connection_mem_origins {connection : Connection}
    (stored : connection ∈ flow.graph.connections) (isState : flow.IsState connection.source) :
    .connection connection ∈ flow.origins := by
  have leaves : connection ∈ flow.graph.outgoing connection.source :=
    (flow.mem_outgoing _ connection).mpr ⟨stored, rfl⟩
  refine List.mem_flatMap.mpr ⟨connection.source, (flow.mem_states _).mpr isState, ?_⟩
  rw [originsOf, if_neg (List.ne_nil_of_mem leaves)]
  exact List.mem_map_of_mem leaves

end Origins

end Flow

namespace Graph

def withoutConnection (graph : Graph) (connection : Connection) : Graph :=
  { graph with connections := graph.connections.erase connection }

variable {graph after : Graph} {connection : Connection}

theorem stored_of_disconnect
    (parted : graph.apply (.disconnect connection) = (.changed true, after)) :
    connection ∈ graph.connections ∧ after = graph.withoutConnection connection := by
  rw [apply, disconnect?] at parted
  by_cases stored : connection ∈ graph.connections
  · rw [if_pos stored] at parted
    exact ⟨stored, (Prod.mk.inj parted).2.symm⟩
  · simp [stored] at parted

theorem outgoing_withoutConnection (distinct : graph.connections.Nodup) (id : StepId) :
    (graph.withoutConnection connection).outgoing id =
      (graph.outgoing id).filter (· ≠ connection) := by
  rw [outgoing, outgoing, withoutConnection, distinct.erase_eq_filter, List.filter_comm]
  congr 2
  funext other
  simp [bne, Bool.beq_eq_decide_eq]

theorem outgoing_withoutConnection_of_ne (distinct : graph.connections.Nodup) {id : StepId}
    (differs : connection.source ≠ id) :
    (graph.withoutConnection connection).outgoing id = graph.outgoing id := by
  rw [outgoing_withoutConnection distinct]
  apply List.filter_eq_self.mpr
  intro other member
  have leaves : other.source = id := of_decide_eq_true (List.mem_filter.mp member).2
  simp only [decide_eq_true_eq]
  rintro rfl
  exact differs leaves

theorem successor?_eq_head? (graph : Graph) (id : StepId) :
    graph.successor? id = (graph.outgoing id).head?.map (·.target) := by
  rw [successor?, outgoing, List.head?_filter]

end Graph

namespace Flow

def parted (flow : Flow) (connection : Connection) : Flow :=
  { flow with graph := flow.graph.withoutConnection connection }

theorem complete_withoutConnection (graph : Graph) (keywords : Keywords) (roles : Option Roles)
    (dictionaries : Option Dictionaries) (connection : Connection) :
    complete (graph.withoutConnection connection) keywords roles dictionaries =
      (complete graph keywords roles dictionaries).parted connection := by
  cases roles <;> rfl

section Parted

variable {flow : Flow} {connection : Connection} (distinct : flow.graph.connections.Nodup)
  (isState : flow.hasRole .state connection.source = true)

include distinct isState

/-- A chain never asks for what leaves a state. -/
theorem resolve_parted (other : Connection) :
    (flow.parted connection).resolve other = flow.resolve other := by
  refine flow.resolve_relinked _ flow.graph.debounce fun noState => ?_
  have follows := flow.graph.chainLinks.walk_follows (flow.hasRole .state) other.target
  refine Links.walk_congr _ fun node met => ?_
  show (flow.graph.withoutConnection connection).successor? node = flow.graph.successor? node
  have differs : connection.source ≠ node := by
    rintro rfl
    simp [follows.goal_met noState met] at isState
  rw [Graph.successor?_eq_head?, Graph.successor?_eq_head?,
    Graph.outgoing_withoutConnection_of_ne distinct differs]

theorem rowFrom_parted (priority : Priority) (origin : RowOrigin) :
    (flow.parted connection).rowFrom priority origin = flow.rowFrom priority origin := by
  cases origin with
  | terminal state => rfl
  | connection other =>
      rw [rowFrom, rowFrom, rowOf, rowOf, resolve_parted distinct isState]
      rfl

omit isState in
theorem originsOf_parted
    (another : ∃ other ∈ flow.graph.outgoing connection.source, other ≠ connection)
    (state : StepId) : (flow.parted connection).originsOf state =
      (flow.originsOf state).filter (· ≠ .connection connection) := by
  have left : (flow.parted connection).graph.outgoing state =
      (flow.graph.outgoing state).filter (· ≠ connection) :=
    Graph.outgoing_withoutConnection distinct state
  rw [originsOf, originsOf, left]
  by_cases none : flow.graph.outgoing state = []
  · simp [none]
  · have some : (flow.graph.outgoing state).filter (· ≠ connection) ≠ [] := by
      by_cases atSource : connection.source = state
      · obtain ⟨other, leaves, differs⟩ := another
        exact List.ne_nil_of_mem (List.mem_filter.mpr ⟨atSource ▸ leaves, by simpa using differs⟩)
      · have kept := left.symm.trans (Graph.outgoing_withoutConnection_of_ne distinct atSource)
        rwa [kept]
    rw [if_neg none, if_neg some, List.filter_map]
    congr 2
    funext other
    simp

omit distinct isState in
theorem origins_parted (wellFormed : flow.graph.WellFormed)
    (another : ∃ other ∈ flow.graph.outgoing connection.source, other ≠ connection) :
    (flow.parted connection).origins = flow.origins.erase (.connection connection) := by
  have sameStates : (flow.parted connection).states = flow.states := rfl
  rw [(nodup_origins wellFormed).erase_eq_filter, origins, origins, List.filter_flatMap, sameStates]
  refine List.flatMap_congr fun state _ => ?_
  rw [originsOf_parted wellFormed.distinctConnections another]
  congr 1
  funext origin
  simp [bne, Bool.beq_eq_decide_eq]

end Parted

end Flow

end StepFlow
