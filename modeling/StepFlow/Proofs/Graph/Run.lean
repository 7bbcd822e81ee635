import StepFlow.Proofs.Graph.FreshId
import StepFlow.Proofs.Graph.WellFormed

namespace StepFlow.Graph

def newStep (graph : Graph) (details : Details) : Step :=
  { details with
    id := .numbered graph.freshNumber
    parent := details.parent.filter graph.contains }

inductive Change (graph : Graph) : Edit → Graph → Prop
  | added (details : Details) : Change graph (.add details)
      { graph.push (graph.newStep details) with counter := graph.freshNumber }
  | patched {id : StepId} {place : Nat} {patch : Patch} (here : graph.place? id = some place)
      (allowed : graph.checkPatch id patch = .ok ()) :
      Change graph (.update id patch) (graph.patchAt place patch)
  | refused {id : StepId} {patch : Patch} {error : GraphError}
      (failed : graph.updateStep id patch = .error error) : Change graph (.update id patch) graph
  | removed {id : StepId} {place : Nat} (here : graph.place? id = some place) :
      Change graph (.remove id) (graph.removeAt id place)
  | absent {id : StepId} (noStep : graph.place? id = none) : Change graph (.remove id) graph
  | repeated {connection : Connection} {now : Int}
      (again : graph.debounce.admit? connection now = none) :
      Change graph (.connect connection now) graph
  | declined {connection : Connection} {now : Int} {debounce : Debounce}
      (admitted : graph.debounce.admit? connection now = some debounce)
      (unsound : graph.accepts connection = false) :
      Change graph (.connect connection now) { graph with debounce }
  | joined {connection : Connection} {now : Int} {debounce : Debounce}
      (admitted : graph.debounce.admit? connection now = some debounce)
      (accepted : graph.accepts connection = true) :
      Change graph (.connect connection now)
        { graph with connections := graph.connections ++ [connection], debounce }
  | parted {connection : Connection} (member : connection ∈ graph.connections) :
      Change graph (.disconnect connection)
        { graph with connections := graph.connections.erase connection }
  | unconnected {connection : Connection} (notMember : connection ∉ graph.connections) :
      Change graph (.disconnect connection) graph

theorem change_updateStep {graph patched : Graph} {id : StepId} {patch : Patch}
    (updated : graph.updateStep id patch = .ok patched) :
    graph.Change (.update id patch) patched := by
  rw [updateStep] at updated
  cases here : graph.place? id with
  | none =>
      rw [here] at updated
      cases updated
  | some place =>
      rw [here] at updated
      cases allowed : graph.checkPatch id patch with
      | error error =>
          rw [allowed] at updated
          cases updated
      | ok _ =>
          rw [allowed] at updated
          cases updated
          exact .patched here allowed

theorem change_connect (graph : Graph) (connection : Connection) (now : Int) :
    graph.Change (.connect connection now) (graph.connect connection now).2 := by
  rw [connect]
  cases admitted : graph.debounce.admit? connection now with
  | none => exact .repeated admitted
  | some debounce =>
      cases accepted : graph.accepts connection with
      | true => exact .joined admitted accepted
      | false => exact .declined admitted accepted

theorem apply_remove {graph : Graph} {id : StepId} {place : Nat}
    (here : graph.place? id = some place) :
    graph.apply (.remove id) = (.changed true, graph.removeAt id place) := by
  rw [apply, removeStep?, (contains_iff_place? graph id).mpr ⟨place, here⟩, here]
  rfl

theorem change_apply (graph : Graph) (edit : Edit) : graph.Change edit (graph.apply edit).2 := by
  cases edit with
  | add details => exact .added details
  | update id patch =>
      rw [apply]
      cases updated : graph.updateStep id patch with
      | error error => exact .refused updated
      | ok patched => exact change_updateStep updated
  | remove id =>
      rw [apply, removeStep?]
      cases here : graph.place? id with
      | none => exact .absent here
      | some place => exact .removed here
  | connect connection now => exact change_connect graph connection now
  | disconnect connection =>
      rw [apply, disconnect?]
      by_cases member : connection ∈ graph.connections
      · rw [if_pos member]
        exact .parted member
      · rw [if_neg member]
        exact .unconnected member

theorem Change.wellFormed {graph after : Graph} {edit : Edit} (change : graph.Change edit after)
    (wellFormed : graph.WellFormed) : after.WellFormed := by
  have known (id : StepId) := wellFormed.indexed.contains_iff id
  cases change with
  | refused _ => exact wellFormed
  | absent _ => exact wellFormed
  | repeated _ => exact wellFormed
  | unconnected _ => exact wellFormed
  | added details =>
      rcases wellFormed.indexed.freshNumber_least with ⟨-, fresh, -⟩
      have pushed : (graph.push (graph.newStep details)).WellFormed := by
        apply wellFormed.push fresh
        intro parent above
        exact (known parent).mp (Option.filter_eq_some_iff.mp above).2
      exact pushed.frame rfl rfl pushed.distinctConnections pushed.endsExist
  | patched here allowed =>
      exact wellFormed.patchAt here ((wellFormed.indexed.checkPatch_ok_iff _ _).mp allowed)
  | removed here => exact wellFormed.removeAt here
  | declined _ _ =>
      exact wellFormed.frame rfl rfl wellFormed.distinctConnections wellFormed.endsExist
  | @joined connection now debounce _ accepted =>
      simp only [accepts, Bool.and_eq_true, known, decide_eq_true_iff] at accepted
      rcases accepted with ⟨ends, new⟩
      have distinct : (graph.connections ++ [connection]).Nodup := by
        refine List.nodup_append.mpr ⟨wellFormed.distinctConnections, by simp, ?_⟩
        intro a inside b last
        rw [List.mem_singleton.mp last]
        exact ne_of_mem_of_not_mem inside new
      refine wellFormed.frame rfl rfl distinct ?_
      intro other member
      rcases List.mem_append.mp member with old | last
      · exact wellFormed.endsExist other old
      · rw [List.mem_singleton.mp last]
        exact ends
  | parted _ =>
      refine wellFormed.frame rfl rfl (wellFormed.distinctConnections.erase _) ?_
      intro other member
      exact wellFormed.endsExist other (List.mem_of_mem_erase member)

inductive Initial : Graph → Prop
  | empty : Initial {}
  | windowed (window : Nat) : Initial (withWindow window)
  | loaded {steps : List Step} {connections : List Connection} {graph : Graph}
      (succeeded : ofParts steps connections = .ok graph) : Initial graph

theorem Initial.wellFormed {start : Graph} (initial : start.Initial) : start.WellFormed := by
  cases initial with
  | empty => exact wellFormed_of_no_steps rfl rfl rfl
  | windowed window => exact wellFormed_of_no_steps rfl rfl rfl
  | loaded succeeded => exact (loadedFrom_of_ofParts succeeded).wellFormed

def run (graph : Graph) (edits : List Edit) : Graph :=
  edits.foldl (fun graph edit => (graph.apply edit).2) graph

theorem WellFormed.run {graph : Graph} (wellFormed : graph.WellFormed) (edits : List Edit) :
    (graph.run edits).WellFormed := by
  induction edits generalizing graph with
  | nil => exact wellFormed
  | cons edit rest ih => exact ih ((change_apply graph edit).wellFormed wellFormed)

def Reachable (graph : Graph) : Prop :=
  ∃ start edits, Initial start ∧ start.run edits = graph

theorem Reachable.wellFormed {graph : Graph} (reachable : graph.Reachable) : graph.WellFormed := by
  rcases reachable with ⟨start, edits, initial, rfl⟩
  exact initial.wellFormed.run edits

/-- Whatever a run starts from and whatever its edits are, every place in the index holds the step
it is for, no step is its own ancestor, and the graph is well-formed. -/
theorem run_keeps_invariant {start : Graph} (initial : start.Initial) (edits : List Edit) :
    (start.run edits).WellFormed ∧
      (∀ id place, (start.run edits).place? id = some place →
        ∃ step, (start.run edits).steps[place]? = some step ∧ step.id = id) ∧
      ∀ id, ¬ (start.run edits).parentLinks.Behind id id := by
  have wellFormed := initial.wellFormed.run edits
  refine ⟨wellFormed, ?_, ?_⟩
  · intro id place here
    have named := (wellFormed.indexed id place).mp here
    rw [getElem?_ids] at named
    exact Option.map_eq_some_iff.mp named
  · intro id cycle
    rcases Relation.TransGen.head'_iff.mp cycle with ⟨parent, link, -⟩
    exact (wellFormed.rooted id (wellFormed.indexed.mem_ids_of_parent? link)).not_cyclic cycle

def roughEdits : List Edit :=
  [.update ⟨"b"⟩ { parent := some (some ⟨"a"⟩) },
    .connect ⟨⟨"s"⟩, ⟨"s"⟩, .success⟩ 0,
    .connect ⟨⟨"s"⟩, ⟨"ghost"⟩, .success⟩ 600,
    .remove ⟨"b"⟩,
    .remove ⟨"b"⟩,
    .add { name := "New", parent := some ⟨"a"⟩ }]

theorem run_keeps_invariant_tangle :
    ∃ start, ofParts tangle tangleConnections = .ok start ∧ (start.run roughEdits).WellFormed ∧
      (∀ id place, (start.run roughEdits).place? id = some place →
        ∃ step, (start.run roughEdits).steps[place]? = some step ∧ step.id = id) ∧
      ∀ id, ¬ (start.run roughEdits).parentLinks.Behind id id := by
  have distinct : (tangle.map (·.id)).Nodup := by decide
  rcases ofParts_ok tangleConnections distinct with ⟨start, loaded, -⟩
  exact ⟨start, loaded, run_keeps_invariant (.loaded loaded) roughEdits⟩

end StepFlow.Graph
