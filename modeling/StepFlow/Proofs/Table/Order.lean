import Mathlib.Algebra.GroupWithZero.Nat
import StepFlow.Proofs.Table.Origins
import StepFlow.Table.Basic

/-!
The order of rows. Rows follow the steps of the graph, and those of one state follow the
connections. So the origins of the rows are the connections out of states and the states that
nothing leaves, sorted by their places in the graph, and there is one row for each (`rows_ordered`).
-/
namespace StepFlow

theorem pairwise_idxOf {α : Type} [DecidableEq α] {xs : List α} (distinct : xs.Nodup) :
    xs.Pairwise fun a b => xs.idxOf a < xs.idxOf b := by
  refine List.pairwise_iff_getElem.mpr fun i j before after below => ?_
  rwa [distinct.idxOf_getElem i before, distinct.idxOf_getElem j after]

namespace RowOrigin

/-- The place of the state among the steps, then that of the connection among the connections. A
state that nothing leaves has one row only and needs no second place. -/
def place (graph : Graph) : RowOrigin → Nat × Nat
  | connection stored => (graph.ids.idxOf stored.source, graph.connections.idxOf stored)
  | terminal state => (graph.ids.idxOf state, 0)

theorem place_fst (graph : Graph) (origin : RowOrigin) :
    (origin.place graph).1 = graph.ids.idxOf origin.state := by
  cases origin <;> rfl

def Precedes (graph : Graph) (origin other : RowOrigin) : Prop :=
  Prod.Lex (· < ·) (· < ·) (origin.place graph) (other.place graph)

def BelongsTo (flow : Flow) : RowOrigin → Prop
  | connection stored => stored ∈ flow.graph.connections ∧ flow.IsState stored.source
  | terminal state =>
      flow.IsState state ∧ ∀ stored ∈ flow.graph.connections, stored.source ≠ state

def chain? (flow : Flow) : RowOrigin → Option Chain
  | connection stored => some (flow.resolve stored)
  | terminal _ => none

end RowOrigin

namespace Flow

structure HasRow (flow : Flow) (priority : Priority) (origin : RowOrigin)
    (generated : GeneratedRow) : Prop where
  source : generated.source = origin.state
  chain : generated.chain = origin.chain? flow
  sourceCell : generated.row.source = flow.stateLabel origin.state
  destination : generated.row.destination = ((origin.chain? flow).map (·.destination)).getD ""
  ruleList : generated.row.ruleList = ((origin.chain? flow).map (·.ruleList)).getD ""
  priority : generated.row.priority = priority
  operation : generated.row.operation = ""

section Rows

variable (flow : Flow) (priority : Priority)

theorem hasRow_rowFrom (origin : RowOrigin) :
    flow.HasRow priority origin (flow.rowFrom priority origin) := by
  cases origin <;> exact ⟨rfl, rfl, rfl, rfl, rfl, rfl, rfl⟩

theorem rows_follow_origins :
    List.Forall₂ (flow.HasRow priority) flow.origins (flow.rows priority) := by
  rw [rows_eq_map_origins, List.forall₂_map_right_iff, List.forall₂_same]
  exact fun origin _ => flow.hasRow_rowFrom priority origin

theorem mem_originsOf_iff (state : StepId) (origin : RowOrigin) :
    origin ∈ flow.originsOf state ↔ origin.state = state ∧
      match origin with
      | .connection stored => stored ∈ flow.graph.connections
      | .terminal _ => ∀ stored ∈ flow.graph.connections, stored.source ≠ state := by
  rw [originsOf]
  by_cases none : flow.graph.outgoing state = []
  · have noneLeaves : ∀ stored ∈ flow.graph.connections, stored.source ≠ state := by
      intro stored member leaves
      have inside := (flow.mem_outgoing state stored).mpr ⟨member, leaves⟩
      rw [none] at inside
      cases inside
    rw [if_pos none, List.mem_singleton]
    cases origin with
    | terminal other => simpa [RowOrigin.state] using fun _ => noneLeaves
    | connection stored =>
        simpa [RowOrigin.state] using fun leaves member => noneLeaves stored member leaves
  · rw [if_neg none, List.mem_map]
    cases origin with
    | connection stored => simp [RowOrigin.state, mem_outgoing, and_comm]
    | terminal other =>
        obtain ⟨stored, leaves⟩ := List.exists_mem_of_ne_nil _ none
        obtain ⟨member, itsSource⟩ := (flow.mem_outgoing state stored).mp leaves
        simpa using fun _ => ⟨stored, member, itsSource⟩

theorem mem_origins_iff (origin : RowOrigin) :
    origin ∈ flow.origins ↔ origin.BelongsTo flow := by
  simp only [origins, List.mem_flatMap, mem_states, mem_originsOf_iff]
  cases origin with
  | connection stored => simp [RowOrigin.state, RowOrigin.BelongsTo, and_comm]
  | terminal state => simp [RowOrigin.state, RowOrigin.BelongsTo]

theorem length_originsOf (state : StepId) :
    (flow.originsOf state).length = max 1 (flow.graph.outgoing state).length := by
  rw [originsOf]
  by_cases none : flow.graph.outgoing state = []
  · simp [none]
  · have some : 0 < (flow.graph.outgoing state).length := List.length_pos_iff.mpr none
    rw [if_neg none, List.length_map]
    omega

theorem length_rows : (flow.rows priority).length =
    (flow.states.map fun state => max 1 (flow.graph.outgoing state).length).sum := by
  rw [rows_eq_map_origins, List.length_map, origins, List.length_flatMap]
  exact congrArg List.sum (List.map_congr_left fun state _ => flow.length_originsOf state)

/-- No other cell of a row depends on the priority. -/
theorem map_row_rows (other : Priority) : (flow.rows other).map (·.row) =
    ((flow.rows priority).map (·.row)).map fun row => { row with priority := other } := by
  rw [rows_eq_map_origins, rows_eq_map_origins, List.map_map, List.map_map, List.map_map]
  refine List.map_congr_left fun origin _ => ?_
  cases origin <;> rfl

end Rows

variable {flow : Flow} (wellFormed : flow.graph.WellFormed)

include wellFormed

theorem originsOf_ascend (state : StepId) :
    (flow.originsOf state).Pairwise (RowOrigin.Precedes flow.graph) := by
  rw [originsOf]
  by_cases none : flow.graph.outgoing state = []
  · rw [if_pos none]
    exact List.pairwise_singleton _ _
  · rw [if_neg none, List.pairwise_map]
    have inOrder := (pairwise_idxOf wellFormed.distinctConnections).filter (·.source = state)
    refine inOrder.imp_of_mem fun {first second} member memberToo before => ?_
    have leaves := ((flow.mem_outgoing state first).mp member).2
    have leavesToo := ((flow.mem_outgoing state second).mp memberToo).2
    rw [RowOrigin.Precedes, RowOrigin.place, RowOrigin.place, leaves, leavesToo]
    exact .right _ before

theorem origins_ascend : flow.origins.Pairwise (RowOrigin.Precedes flow.graph) := by
  refine List.pairwise_flatMap.mpr ⟨fun state _ => originsOf_ascend wellFormed state, ?_⟩
  have inOrder : flow.states.Pairwise fun first second =>
      flow.graph.ids.idxOf first < flow.graph.ids.idxOf second :=
    (pairwise_idxOf wellFormed.distinctIds).filter _
  refine inOrder.imp fun before origin member other memberToo => ?_
  rw [← flow.state_of_mem_originsOf member, ← flow.state_of_mem_originsOf memberToo] at before
  rw [RowOrigin.Precedes, Prod.lex_def, RowOrigin.place_fst, RowOrigin.place_fst]
  exact .inl before

omit wellFormed

/-- The connections out of states and the states that nothing leaves have a row each and in their
order, and there are no others; tables and plain rows are these rows with some priority. -/
theorem rows_ordered (reachable : flow.graph.Reachable) (priority : Priority) :
    flow.origins.Pairwise (RowOrigin.Precedes flow.graph) ∧ flow.origins.Nodup ∧
      (∀ origin, origin ∈ flow.origins ↔ origin.BelongsTo flow) ∧
      List.Forall₂ (flow.HasRow priority) flow.origins (flow.rows priority) ∧
      (flow.rows priority).length =
        (flow.states.map fun state => max 1 (flow.graph.outgoing state).length).sum ∧
      (flow.compile priority).rows = (flow.rows priority).map (·.row) ∧
      flow.plainRows = (flow.compile priority).rows.map ({ · with priority := .standard }) := by
  have wellFormed := reachable.wellFormed
  exact ⟨origins_ascend wellFormed, nodup_origins wellFormed, flow.mem_origins_iff,
    flow.rows_follow_origins priority, flow.length_rows priority, rfl,
    flow.map_row_rows priority .standard⟩

def crossingEdits : List Graph.Edit :=
  [.add { name := "Door" },
    .add { name := "Hall" },
    .add { name := "Cellar" },
    .connect ⟨⟨"step-2"⟩, ⟨"step-1"⟩, .success⟩ 0,
    .connect ⟨⟨"step-1"⟩, ⟨"step-3"⟩, .success⟩ 600,
    .connect ⟨⟨"step-2"⟩, ⟨"step-3"⟩, .success⟩ 1200,
    .connect ⟨⟨"step-1"⟩, ⟨"step-3"⟩, .failure⟩ 1800]

/-- Two states whose connections were made by turns, and a third one that nothing leaves. -/
def crossing : Flow := complete (Graph.run {} crossingEdits) .standard none none

theorem rows_ordered_crossing : crossing.graph.Reachable ∧
    crossing.origins.Pairwise (RowOrigin.Precedes crossing.graph) ∧
    List.Forall₂ (crossing.HasRow .standard) crossing.origins (crossing.rows .standard) ∧
    crossing.origins =
      [.connection ⟨⟨"step-1"⟩, ⟨"step-3"⟩, .success⟩,
        .connection ⟨⟨"step-1"⟩, ⟨"step-3"⟩, .failure⟩,
        .connection ⟨⟨"step-2"⟩, ⟨"step-1"⟩, .success⟩,
        .connection ⟨⟨"step-2"⟩, ⟨"step-3"⟩, .success⟩,
        .terminal ⟨"step-3"⟩] := by
  have reachable : crossing.graph.Reachable := ⟨{}, crossingEdits, .empty, rfl⟩
  obtain ⟨ascend, -, -, follow, -⟩ := rows_ordered reachable .standard
  exact ⟨reachable, ascend, follow, by decide +kernel⟩

end Flow

end StepFlow
