import StepFlow.Proofs.Table.Rows

/-!
What one more connection does to a table. Chains that come to a state never look at what leaves it,
and chains follow the first connection of a step only; so a new connection shows in the rows of its
source if that is a state, and otherwise only in chains that stopped at its source for want of a
connection (`rows_after_connect`).
-/
namespace StepFlow

namespace Graph

def withConnection (graph : Graph) (connection : Connection) (debounce : Debounce) : Graph :=
  { graph with connections := graph.connections ++ [connection], debounce }

variable {graph after : Graph} {connection : Connection}

theorem accepted_of_connect {now : Int}
    (added : graph.apply (.connect connection now) = (.changed true, after)) :
    graph.accepts connection = true ∧
      ∃ debounce, after = graph.withConnection connection debounce := by
  rw [apply, connect] at added
  cases admitted : graph.debounce.admit? connection now with
  | none => simp [admitted] at added
  | some debounce =>
      cases accepted : graph.accepts connection with
      | false => simp [admitted, accepted] at added
      | true =>
          simp only [admitted, accepted, if_true, Prod.mk.injEq, true_and] at added
          exact ⟨rfl, debounce, added.symm⟩

variable (graph connection) (debounce : Debounce) (id : StepId)

theorem outgoing_withConnection : (graph.withConnection connection debounce).outgoing id =
    graph.outgoing id ++ if connection.source = id then [connection] else [] := by
  by_cases leaves : connection.source = id <;>
    simp [outgoing, withConnection, List.filter_append, leaves]

theorem successor?_withConnection : (graph.withConnection connection debounce).successor? id =
    (graph.successor? id).or (if connection.source = id then some connection.target else none) := by
  by_cases leaves : connection.source = id <;>
    cases found : graph.connections.find? (·.source = id) <;>
      simp [successor?, withConnection, List.find?_append, leaves, found]

theorem successor?_eq_none_iff : graph.successor? id = none ↔ graph.outgoing id = [] := by
  simp [successor?, outgoing]

end Graph

namespace Flow

def joined (flow : Flow) (connection : Connection) (debounce : Debounce) : Flow :=
  { flow with graph := flow.graph.withConnection connection debounce }

theorem complete_withConnection (graph : Graph) (keywords : Keywords) (roles : Option Roles)
    (dictionaries : Option Dictionaries) (connection : Connection) (debounce : Debounce) :
    complete (graph.withConnection connection debounce) keywords roles dictionaries =
      (complete graph keywords roles dictionaries).joined connection debounce := by
  cases roles <;> rfl

variable {flow : Flow} {connection : Connection} (debounce : Debounce) (priority : Priority)

theorem chainWalk_joined {start : StepId} (noState : flow.hasRole .state start = false)
    (apart : flow.hasRole .state connection.source = true ∨
      flow.graph.outgoing connection.source ≠ [] ∨
      (flow.chainWalk start).ending ≠ .stuck connection.source) :
    (flow.joined connection debounce).chainWalk start = flow.chainWalk start := by
  have follows := flow.graph.chainLinks.walk_follows (flow.hasRole .state) start
  -- The walk asks for a way on from the nodes it meets only; at the source there was one already, or
  -- else the walk would have stopped there.
  refine Links.walk_congr _ fun node met => ?_
  refine (flow.graph.successor?_withConnection connection debounce node).trans ?_
  show _ = flow.graph.successor? node
  by_cases atSource : connection.source = node
  · subst atSource
    cases next : flow.graph.successor? connection.source with
    | some target => rfl
    | none =>
        rcases apart with isState | leaves | notStuck
        · simp [follows.goal_met noState met] at isState
        · exact absurd ((flow.graph.successor?_eq_none_iff connection.source).mp next) leaves
        · exact absurd (follows.stuck_of_met met next) notStuck
  · rw [if_neg atSource, Option.or_none]

/-- Only a chain that stopped at the source of the new connection can change. -/
theorem resolve_joined {other : Connection}
    (apart : flow.hasRole .state connection.source = true ∨
      flow.graph.outgoing connection.source ≠ [] ∨
      (flow.resolve other).outcome ≠ .dangling connection.source) :
    (flow.joined connection debounce).resolve other = flow.resolve other := by
  refine flow.resolve_relinked _ _ fun noState => chainWalk_joined debounce noState ?_
  rw [resolve, if_neg (by simp [noState])] at apart
  exact apart.imp_right (Or.imp_right fun outcome stuck => outcome
    ((ChainOutcome.ofEnd_eq_dangling_iff _ _).mpr stuck))

theorem rowOf_joined {state : StepId} {other : Connection}
    (same : (flow.joined connection debounce).resolve other = flow.resolve other) :
    (flow.joined connection debounce).rowOf priority state other =
      flow.rowOf priority state other := by
  rw [rowOf, rowOf, same]
  rfl

theorem outgoing_joined_of_ne {state : StepId} (differs : state ≠ connection.source) :
    (flow.joined connection debounce).graph.outgoing state = flow.graph.outgoing state := by
  refine (flow.graph.outgoing_withConnection connection debounce state).trans ?_
  rw [if_neg (Ne.symm differs), List.append_nil]

structure KeptUnlessStopped (step : StepId) (old new : GeneratedRow) : Prop where
  source : new.source = old.source
  sourceCell : new.row.source = old.row.source
  same : (∀ chain, old.chain = some chain → chain.outcome ≠ .dangling step) → new = old

theorem rowsOf_kept {state : StepId} (differs : state ≠ connection.source) :
    List.Forall₂ (KeptUnlessStopped connection.source) (flow.rowsOf priority state)
      ((flow.joined connection debounce).rowsOf priority state) := by
  rw [rowsOf_eq, rowsOf_eq, outgoing_joined_of_ne debounce differs]
  by_cases none : flow.graph.outgoing state = []
  · rw [if_pos none, if_pos none]
    exact .cons ⟨rfl, rfl, fun _ => rfl⟩ .nil
  · rw [if_neg none, if_neg none, List.forall₂_map_left_iff, List.forall₂_map_right_iff,
      List.forall₂_same]
    intro other _
    refine ⟨rfl, rfl, fun notStopped => rowOf_joined debounce priority ?_⟩
    exact resolve_joined debounce (.inr (.inr (notStopped _ rfl)))

section Settled

variable (settled : flow.hasRole .state connection.source = true ∨
  flow.graph.outgoing connection.source ≠ [])

include settled

theorem rowOf_joined_of_settled (state : StepId) (other : Connection) :
    (flow.joined connection debounce).rowOf priority state other =
      flow.rowOf priority state other :=
  rowOf_joined debounce priority (resolve_joined debounce (settled.imp_right .inl))

theorem rowsOf_joined_of_ne {state : StepId} (differs : state ≠ connection.source) :
    (flow.joined connection debounce).rowsOf priority state = flow.rowsOf priority state := by
  rw [rowsOf_eq, rowsOf_eq, outgoing_joined_of_ne debounce differs]
  by_cases none : flow.graph.outgoing state = []
  · rw [if_pos none, if_pos none]
    rfl
  · rw [if_neg none, if_neg none]
    exact List.map_congr_left fun other _ =>
      rowOf_joined_of_settled debounce priority settled state other

end Settled

theorem rows_split (distinct : flow.graph.ids.Nodup) (isStep : connection.source ∈ flow.graph.ids)
    (isState : flow.hasRole .state connection.source = true) :
    ∃ front back, (∀ generated ∈ front ++ back, generated.source ≠ connection.source) ∧
      flow.rows priority = front ++ flow.rowsOf priority connection.source ++ back ∧
      (flow.joined connection debounce).rows priority =
        front ++ (flow.joined connection debounce).rowsOf priority connection.source ++ back := by
  obtain ⟨front, back, split⟩ :=
    List.append_of_mem ((flow.mem_states connection.source).mpr ⟨isStep, isState⟩)
  have distinctStates : flow.states.Nodup := distinct.filter _
  rw [split, List.nodup_middle, List.nodup_cons] at distinctStates
  have others (state : StepId) (member : state ∈ front ++ back) : state ≠ connection.source :=
    ne_of_mem_of_not_mem member distinctStates.1
  have stay (states : List StepId) (within : states ⊆ front ++ back) :
      states.flatMap ((flow.joined connection debounce).rowsOf priority) =
        states.flatMap (flow.rowsOf priority) :=
    List.flatMap_congr fun state member =>
      rowsOf_joined_of_ne debounce priority (.inl isState) (others state (within member))
  have sameStates : (flow.joined connection debounce).states = front ++ connection.source :: back :=
    split
  refine ⟨front.flatMap (flow.rowsOf priority), back.flatMap (flow.rowsOf priority), ?_, ?_, ?_⟩
  · intro generated member
    rw [← List.flatMap_append] at member
    obtain ⟨state, inside, itsRow⟩ := List.mem_flatMap.mp member
    rw [flow.source_of_mem_rowsOf priority itsRow]
    exact others state inside
  · rw [rows, split, List.flatMap_append, List.flatMap_cons, List.append_assoc]
  · rw [rows, sameStates, List.flatMap_append, List.flatMap_cons, List.append_assoc,
      stay front (List.subset_append_left front back),
      stay back (List.subset_append_right front back)]

theorem ne_of_mem_states {step : StepId} (noState : flow.hasRole .state step = false)
    {state : StepId} (member : state ∈ flow.states) : state ≠ step := by
  rintro rfl
  simp [((flow.mem_states _).mp member).2] at noState

theorem outgoing_joined_source : (flow.joined connection debounce).graph.outgoing connection.source =
    flow.graph.outgoing connection.source ++ [connection] := by
  refine (flow.graph.outgoing_withConnection connection debounce connection.source).trans ?_
  rw [if_pos rfl]

structure RowsAfter (before after : Flow) (connection : Connection) (priority : Priority) : Prop where
  /-- A state that had connections gets one row, right behind those it had. -/
  inserted : before.hasRole .state connection.source = true →
    before.graph.outgoing connection.source ≠ [] →
    ∃ front last back, before.rows priority = front ++ last :: back ∧
      last.source = connection.source ∧
      (∀ generated ∈ back, generated.source ≠ connection.source) ∧
      after.rows priority =
        front ++ last :: after.rowOf priority connection.source connection :: back
  /-- The row takes the place of the terminal row of a state without connections. -/
  replaced : before.hasRole .state connection.source = true →
    before.graph.outgoing connection.source = [] →
    ∃ front back, (∀ generated ∈ front ++ back, generated.source ≠ connection.source) ∧
      before.rows priority = front ++ before.terminalRow priority connection.source :: back ∧
      after.rows priority = front ++ after.rowOf priority connection.source connection :: back
  /-- Later connections of a rule or a behavior are not followed. -/
  untouched : before.hasRole .state connection.source = false →
    before.graph.outgoing connection.source ≠ [] → after.rows priority = before.rows priority
  /-- The first connection of a rule or a behavior leads on from where chains stopped. -/
  redirected : before.hasRole .state connection.source = false →
    before.graph.outgoing connection.source = [] →
    List.Forall₂ (KeptUnlessStopped connection.source) (before.rows priority) (after.rows priority)

variable (flow connection) in
theorem rowsAfter_joined (distinct : flow.graph.ids.Nodup)
    (isStep : connection.source ∈ flow.graph.ids) :
    RowsAfter flow (flow.joined connection debounce) connection priority where
  inserted isState leaves := by
    obtain ⟨front, back, others, before, after⟩ :=
      rows_split debounce priority distinct isStep isState
    have leavesToo : (flow.joined connection debounce).graph.outgoing connection.source ≠ [] := by
      simp [outgoing_joined_source]
    have oldRows : flow.rowsOf priority connection.source =
        (flow.graph.outgoing connection.source).map (flow.rowOf priority connection.source) := by
      rw [rowsOf_eq, if_neg leaves]
    have newRows : (flow.joined connection debounce).rowsOf priority connection.source =
        flow.rowsOf priority connection.source ++
          [(flow.joined connection debounce).rowOf priority connection.source connection] := by
      rw [rowsOf_eq, if_neg leavesToo, outgoing_joined_source, List.map_append, oldRows]
      congr 1
      exact List.map_congr_left fun other _ =>
        rowOf_joined_of_settled debounce priority (.inl isState) connection.source other
    obtain ⟨init, last, split⟩ :=
      (List.eq_nil_or_concat (flow.rowsOf priority connection.source)).resolve_left
        (flow.rowsOf_ne_nil priority connection.source)
    refine ⟨front ++ init, last, back, ?_, ?_, ?_, ?_⟩
    · simp [before, split]
    · have itsRow : last ∈ flow.rowsOf priority connection.source := by simp [split]
      exact flow.source_of_mem_rowsOf priority itsRow
    · exact fun generated member => others generated (List.mem_append_right front member)
    · simp [after, newRows, split]
  replaced isState nothing := by
    obtain ⟨front, back, others, before, after⟩ :=
      rows_split debounce priority distinct isStep isState
    refine ⟨front, back, others, ?_, ?_⟩
    · rw [before, rowsOf_eq, if_pos nothing, List.append_assoc, List.singleton_append]
    · have only : (flow.joined connection debounce).graph.outgoing connection.source =
          [connection] := by
        rw [outgoing_joined_source, nothing, List.nil_append]
      rw [after, rowsOf_eq, only, if_neg (List.cons_ne_nil _ _), List.append_assoc]
      rfl
  untouched noState leaves :=
    List.flatMap_congr fun _ member =>
      rowsOf_joined_of_ne debounce priority (.inr leaves) (ne_of_mem_states noState member)
  redirected noState _ := by
    -- Both flows have the same states, so their rows are compared state by state.
    have states : List.Forall₂ (fun old new => new = old ∧ old ≠ connection.source) flow.states
        (flow.joined connection debounce).states :=
      List.forall₂_same.mpr fun _ member => ⟨rfl, ne_of_mem_states noState member⟩
    refine List.rel_flatMap states ?_
    rintro state _ ⟨rfl, differs⟩
    exact rowsOf_kept debounce priority differs

/-- A connection that is made changes the rows of a table only where it has to. -/
theorem rows_after_connect {graph after : Graph} (reachable : graph.Reachable)
    {connection : Connection} {now : Int}
    (added : graph.apply (.connect connection now) = (.changed true, after)) (keywords : Keywords)
    (roles : Option Roles) (dictionaries : Option Dictionaries) (priority : Priority) :
    RowsAfter (complete graph keywords roles dictionaries)
      (complete after keywords roles dictionaries) connection priority := by
  have wellFormed := reachable.wellFormed
  obtain ⟨accepted, debounce, rfl⟩ := Graph.accepted_of_connect added
  rw [Graph.accepts, Bool.and_eq_true, Bool.and_eq_true] at accepted
  obtain ⟨⟨isStep, -⟩, -⟩ := accepted
  rw [complete_withConnection]
  exact rowsAfter_joined _ _ debounce priority wellFormed.distinctIds
    ((wellFormed.indexed.contains_iff connection.source).mp isStep)

def forkEdits : List Graph.Edit :=
  [.add { name := "Door" },
    .add { name := "Is it open?" },
    .add { name := "Knock" },
    .add { name := "Hall" },
    .connect ⟨⟨"step-1"⟩, ⟨"step-2"⟩, .success⟩ 0,
    .connect ⟨⟨"step-1"⟩, ⟨"step-3"⟩, .failure⟩ 600]

def fork : Graph := Graph.run {} forkEdits

def forkLedOn : Graph := (fork.apply (.connect ⟨⟨"step-2"⟩, ⟨"step-4"⟩, .success⟩ 1200)).2

theorem rows_after_connect_fork : fork.Reachable ∧
    fork.apply (.connect ⟨⟨"step-2"⟩, ⟨"step-4"⟩, .success⟩ 1200) = (.changed true, forkLedOn) ∧
    List.Forall₂ (KeptUnlessStopped ⟨"step-2"⟩)
      ((complete fork .standard none none).rows .standard)
      ((complete forkLedOn .standard none none).rows .standard) ∧
    ((complete fork .standard none none).rows .standard).map (·.row.destination) =
      ["", "Knock", "", ""] ∧
    ((complete forkLedOn .standard none none).rows .standard).map (·.row.destination) =
      ["Hall", "Knock", "", ""] := by
  have reachable : fork.Reachable := ⟨{}, forkEdits, .empty, rfl⟩
  have made : (fork.apply (.connect ⟨⟨"step-2"⟩, ⟨"step-4"⟩, .success⟩ 1200)).1 = .changed true := by
    decide +kernel
  have added : fork.apply (.connect ⟨⟨"step-2"⟩, ⟨"step-4"⟩, .success⟩ 1200) =
      (.changed true, forkLedOn) := Prod.ext made rfl
  refine ⟨reachable, added, ?_, by decide +kernel, by decide +kernel⟩
  exact (rows_after_connect reachable added .standard none none .standard).redirected
    (by decide +kernel) (by decide +kernel)

end Flow

end StepFlow
