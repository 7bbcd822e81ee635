import StepFlow.Chain
import StepFlow.Proofs.Graph.Run
import StepFlow.Proofs.Walk

/-!
What chains mean. From the target of a connection on there is a sequence of steps, each followed by
the target of its first connection, and it may go on for ever. `Resolves` says what a chain is in
terms of that sequence; the chain of every connection is so, in every flow.
-/
namespace StepFlow

namespace ChainOutcome

variable (ending : WalkEnd StepId)

theorem ofEnd_ne_direct : ofEnd ending ≠ direct := by
  cases ending <;> simp [ofEnd]

theorem ofEnd_eq_reached_iff : ofEnd ending = reached ↔ ∃ id, ending = .arrived id := by
  cases ending <;> simp [ofEnd]

theorem ofEnd_eq_dangling_iff (last : StepId) :
    ofEnd ending = dangling last ↔ ending = .stuck last := by
  cases ending <;> simp [ofEnd]

theorem ofEnd_eq_cycle_iff (repeated : StepId) :
    ofEnd ending = cycle repeated ↔ ending = .looped repeated := by
  cases ending <;> simp [ofEnd]

end ChainOutcome

namespace Flow

/-- The steps are those of the sequence in front of the first state, each once and in order. -/
structure Passes (flow : Flow) (start : StepId) (passed : List StepId) : Prop where
  inOrder : ∀ n < passed.length, passed[n]? = flow.graph.chainLinks.nth start n
  distinct : passed.Nodup
  beforeState : ∀ id, id ∈ passed ↔ ∃ n, flow.graph.chainLinks.nth start n = some id ∧
    ∀ m ≤ n, ∀ earlier, flow.graph.chainLinks.nth start m = some earlier →
      flow.hasRole .state earlier = false

/-- The four outcomes exclude each other: a state at once, a state later on, and without any state
the end of the sequence or the first step that occurs in it twice. -/
structure Resolves (flow : Flow) (start : StepId) (chain : Chain) : Prop where
  direct : chain.outcome = .direct ↔ flow.hasRole .state start = true
  reached : chain.outcome = .reached ↔ flow.hasRole .state start = false ∧
    ∃ n id, flow.graph.chainLinks.nth start n = some id ∧ flow.hasRole .state id = true
  dangling : ∀ last, chain.outcome = .dangling last ↔
    flow.graph.chainLinks.GoalFree (flow.hasRole .state) start ∧
      flow.graph.chainLinks.EndsAt start last
  cycle : ∀ repeated, chain.outcome = .cycle repeated ↔
    flow.graph.chainLinks.GoalFree (flow.hasRole .state) start ∧
      flow.graph.chainLinks.Endless start ∧ flow.graph.chainLinks.FirstRepeat start repeated
  destinationStep : ∀ id, chain.destinationStep = some id ↔
    flow.graph.chainLinks.FirstGoal (flow.hasRole .state) start id
  steps : ∃ passed, flow.Passes start passed ∧
    chain.ruleSteps = passed.filter (flow.hasRole .rule) ∧ chain.walked = passed.length
  ruleList : chain.ruleList = ruleSeparator.intercalate (chain.ruleSteps.map flow.ruleLabel)
  destination : chain.destination = (chain.destinationStep.map flow.stateLabel).getD ""

variable (flow : Flow)

theorem passes_chainWalk {start : StepId} (noState : flow.hasRole .state start = false) :
    flow.Passes start (flow.chainWalk start).met where
  inOrder := (flow.graph.chainLinks.walk_follows (flow.hasRole .state) start).nodes
  distinct := (flow.graph.chainLinks.walk_follows (flow.hasRole .state) start).distinct
  beforeState := flow.graph.chainLinks.mem_walk_iff (flow.hasRole .state) noState

theorem passes_nil {start : StepId} (isState : flow.hasRole .state start = true) :
    flow.Passes start [] where
  inOrder := by simp
  distinct := List.nodup_nil
  beforeState := by
    intro id
    simp only [List.not_mem_nil, false_iff]
    intro before
    obtain ⟨n, _, free⟩ := before
    simp [free 0 (Nat.zero_le n) start rfl] at isState

theorem resolves_of_state {connection : Connection}
    (isState : flow.hasRole .state connection.target = true) :
    flow.Resolves connection.target (flow.resolve connection) := by
  have first : flow.graph.chainLinks.FirstGoal (flow.hasRole .state) connection.target
      connection.target := ⟨0, rfl, isState, by simp⟩
  have notFree := first.not_goalFree
  rw [resolve, if_pos isState]
  exact {
    direct := by simp [isState]
    reached := by simp [isState]
    dangling := by simp [notFree]
    cycle := by simp [notFree]
    destinationStep := by
      intro id
      simp only [Option.some.injEq]
      constructor
      · intro same
        exact same ▸ first
      · exact first.unique
    steps := ⟨[], flow.passes_nil isState, rfl, rfl⟩
    ruleList := rfl
    destination := rfl }

theorem resolves_of_no_state {connection : Connection}
    (noState : flow.hasRole .state connection.target = false) :
    flow.Resolves connection.target (flow.resolve connection) := by
  have arrived := flow.graph.chainLinks.walk_arrived_iff (flow.hasRole .state) noState
  have stuck := flow.graph.chainLinks.walk_stuck_iff (flow.hasRole .state) noState
  have looped := flow.graph.chainLinks.walk_looped_iff (flow.hasRole .state) noState
  rw [resolve, if_neg (by simp [noState])]
  exact {
    direct := by simp [chainOfWalk, ChainOutcome.ofEnd_ne_direct, noState]
    reached := by
      rw [← Links.exists_firstGoal_iff, and_iff_right noState]
      exact (ChainOutcome.ofEnd_eq_reached_iff _).trans (exists_congr arrived)
    dangling := fun last => (ChainOutcome.ofEnd_eq_dangling_iff _ last).trans (stuck last)
    cycle := fun repeated => (ChainOutcome.ofEnd_eq_cycle_iff _ repeated).trans (looped repeated)
    destinationStep := fun id => (WalkEnd.goal?_eq_some_iff _ id).trans (arrived id)
    steps := ⟨(flow.chainWalk connection.target).met, flow.passes_chainWalk noState, rfl, rfl⟩
    ruleList := rfl
    destination := rfl }

theorem resolves (connection : Connection) :
    flow.Resolves connection.target (flow.resolve connection) := by
  cases isState : flow.hasRole .state connection.target with
  | true => exact flow.resolves_of_state isState
  | false => exact flow.resolves_of_no_state isState

def relinked (connections : List Connection) (debounce : Debounce) : Flow :=
  { flow with graph := { flow.graph with connections, debounce } }

theorem resolve_relinked (connections : List Connection) (debounce : Debounce)
    {connection : Connection}
    (sameWalk : flow.hasRole .state connection.target = false →
      (flow.relinked connections debounce).chainWalk connection.target =
        flow.chainWalk connection.target) :
    (flow.relinked connections debounce).resolve connection = flow.resolve connection := by
  have sameRole : (flow.relinked connections debounce).hasRole .state connection.target =
      flow.hasRole .state connection.target := rfl
  rw [resolve, resolve, sameRole]
  cases isState : flow.hasRole .state connection.target with
  | true => rfl
  | false =>
      rw [if_neg Bool.false_ne_true, if_neg Bool.false_ne_true, sameWalk isState]
      rfl

def passable (flow : Flow) : List StepId :=
  flow.graph.ids.filter fun id => !flow.hasRole .state id

variable {flow}

theorem mem_ids_of_nth (wellFormed : flow.graph.WellFormed) {start id : StepId} {n : Nat}
    (isStep : start ∈ flow.graph.ids) (here : flow.graph.chainLinks.nth start n = some id) :
    id ∈ flow.graph.ids := by
  cases n with
  | zero =>
      cases here
      exact isStep
  | succ n =>
      obtain ⟨before, _, link⟩ := Option.bind_eq_some_iff.mp here
      obtain ⟨connection, found, ends⟩ := Option.map_eq_some_iff.mp link
      rw [← ends]
      exact (wellFormed.endsExist connection (List.mem_of_find?_eq_some found)).2

theorem Passes.length_le (wellFormed : flow.graph.WellFormed) {start : StepId}
    {passed : List StepId} (passes : flow.Passes start passed) (isStep : start ∈ flow.graph.ids) :
    passed.length ≤ flow.passable.length := by
  apply passes.distinct.length_le_of_subset
  intro id member
  obtain ⟨n, here, free⟩ := (passes.beforeState id).mp member
  have noState := free n (Nat.le_refl n) id here
  exact List.mem_filter.mpr ⟨mem_ids_of_nth wellFormed isStep here, by simp [noState]⟩

theorem length_passable_le (flow : Flow) : flow.passable.length ≤ flow.graph.size := by
  rw [← flow.graph.length_ids]
  exact List.length_filter_le _ _

/-- Chains are what they mean, whatever the roles and labels are, and a chain that sets out from a
step of the graph is no longer than the graph has rules and behaviors. -/
theorem resolve_agrees (reachable : flow.graph.Reachable) (connection : Connection) :
    flow.Resolves connection.target (flow.resolve connection) ∧
      (connection.target ∈ flow.graph.ids →
        (flow.resolve connection).walked ≤ flow.passable.length ∧
          flow.passable.length ≤ flow.graph.size) := by
  have resolves := flow.resolves connection
  refine ⟨resolves, ?_⟩
  intro isStep
  obtain ⟨passed, passes, _, counted⟩ := resolves.steps
  rw [counted]
  exact ⟨passes.length_le reachable.wellFormed isStep, flow.length_passable_le⟩

def lassoEdits : List Graph.Edit :=
  [.add { name := "Door" },
    .add { name := "Is it open?" },
    .add { name := "Knock" },
    .connect ⟨⟨"step-1"⟩, ⟨"step-2"⟩, .success⟩ 0,
    .connect ⟨⟨"step-2"⟩, ⟨"step-3"⟩, .failure⟩ 600,
    .connect ⟨⟨"step-3"⟩, ⟨"step-2"⟩, .success⟩ 1200]

def lasso : Flow where
  graph := Graph.run {} lassoEdits
  roles := .ofList [("step-2", .rule), ("step-3", .behavior)]

theorem resolve_agrees_lasso : lasso.graph.Reachable ∧
    lasso.Resolves ⟨"step-2"⟩ (lasso.resolve ⟨⟨"step-1"⟩, ⟨"step-2"⟩, .success⟩) ∧
    (lasso.resolve ⟨⟨"step-1"⟩, ⟨"step-2"⟩, .success⟩).outcome = .cycle ⟨"step-2"⟩ ∧
    (lasso.resolve ⟨⟨"step-1"⟩, ⟨"step-2"⟩, .success⟩).walked = 2 := by
  have reachable : lasso.graph.Reachable := ⟨{}, lassoEdits, .empty, rfl⟩
  exact ⟨reachable, (resolve_agrees reachable ⟨⟨"step-1"⟩, ⟨"step-2"⟩, .success⟩).1,
    by decide +kernel, by decide +kernel⟩

end Flow

end StepFlow
