import StepFlow.Proofs.Graph.Removals
import StepFlow.Proofs.Graph.Windows

/-!
Ids of new steps. The search for one goes through the numbers above the counter until it meets a
free one, and finds it among one candidate more than there are steps (`Indexed.search_freshNumber`).
The counter never goes back, so a run hands out no id twice, and nothing in the graph refers to an
id before its step is there: the step can be removed again without a trace (`allocation_fresh`).
-/
namespace StepFlow.Graph

/-- Trying the numbers behind the given one in turn, without an end in sight, the search takes so
many tries to come to a free one. -/
inductive Search (graph : Graph) : Nat → Nat → Nat → Prop
  | free {last : Nat} (unused : graph.contains (.numbered (last + 1)) = false) :
      Search graph last 1 (last + 1)
  | taken {last tries number : Nat} (used : graph.contains (.numbered (last + 1)) = true)
      (further : Search graph (last + 1) tries number) : Search graph last (tries + 1) number

structure Unmentioned (graph : Graph) (id : StepId) : Prop where
  noStep : id ∉ graph.ids
  noParent : ∀ step ∈ graph.steps, step.parent ≠ some id
  noEnd : ∀ connection ∈ graph.connections, connection.touches id = false

def Reply.added? : Reply → Option StepId
  | .added id => some id
  | .updated | .refused _ | .changed _ => none

theorem WellFormed.unmentioned {graph : Graph} (wellFormed : graph.WellFormed) {id : StepId}
    (absent : id ∉ graph.ids) : graph.Unmentioned id where
  noStep := absent
  noParent := by
    intro step member above
    exact absent (wellFormed.parentsExist step member id above)
  noEnd := by
    intro connection member
    rcases wellFormed.endsExist connection member with ⟨source, target⟩
    simp [Connection.touches, ne_of_mem_of_not_mem source absent,
      ne_of_mem_of_not_mem target absent]

theorem search_of_taken {graph : Graph} {last tries : Nat}
    (unused : graph.contains (.numbered (last + (tries + 1))) = false)
    (used : ∀ number, last < number → number < last + (tries + 1) →
      graph.contains (.numbered number) = true) :
    graph.Search last (tries + 1) (last + (tries + 1)) := by
  induction tries generalizing last with
  | zero => exact .free unused
  | succ tries ih =>
      have ahead : last + (tries + 1 + 1) = last + 1 + (tries + 1) := by omega
      rw [ahead] at unused used ⊢
      refine .taken (used (last + 1) (by omega) (by omega)) (ih unused ?_)
      intro number above before
      exact used number (by omega) before

theorem Indexed.search_freshNumber {graph : Graph} (indexed : graph.Indexed) :
    ∃ tries ≤ graph.size + 1, graph.Search graph.counter tries graph.freshNumber := by
  rcases indexed.freshNumber_least with ⟨above, unused, least⟩
  rcases exists_free_number graph with ⟨free, among, notUsed⟩
  obtain ⟨tries, ahead⟩ : ∃ tries, graph.freshNumber = graph.counter + (tries + 1) :=
    ⟨graph.freshNumber - graph.counter - 1, by omega⟩
  have within : graph.freshNumber ≤ free := by
    by_contra beyond
    exact notUsed (least free (List.mem_range'_1.mp among).1 (by omega))
  have bound := (List.mem_range'_1.mp among).2
  refine ⟨tries + 1, by omega, ?_⟩
  rw [ahead] at unused least ⊢
  refine search_of_taken ?_ ?_
  · exact Bool.eq_false_iff.mpr (mt (indexed.contains_iff _).mp unused)
  · intro number behind before
    exact (indexed.contains_iff _).mpr (least number behind before)

theorem WellFormed.without_new {graph : Graph} (wellFormed : graph.WellFormed) (step : Step)
    (fresh : step.id ∉ graph.ids) (counter : Nat) :
    Without { graph.push step with counter } [step.id] { graph with counter } := by
  have nothing : graph.Without [step.id] graph :=
    wellFormed.without_of_absent (by simpa using fresh)
  exact {
    steps := by
      have onlyNew : [step].filter (·.id ∉ [step.id]) = [] := by simp
      show graph.steps = ((graph.steps ++ [step]).filter _).map _
      rw [List.filter_append, onlyNew, List.append_nil]
      exact nothing.steps
    connections := nothing.connections
    indexed := wellFormed.indexed.of_same_ids rfl rfl
    counter := rfl
    debounce := rfl }

theorem WellFormed.remove_new {graph : Graph} (wellFormed : graph.WellFormed) (details : Details) :
    (graph.apply (.add details)).2.apply (.remove (.numbered graph.freshNumber)) =
      (.changed true, { graph with counter := graph.freshNumber }) := by
  have fresh := wellFormed.indexed.freshNumber_least.2.1
  have grown := (change_apply graph (.add details)).wellFormed wellFormed
  have isStep : StepId.numbered graph.freshNumber ∈ (graph.apply (.add details)).2.ids :=
    mem_ids_push.mpr (.inr rfl)
  rcases grown.indexed.exists_place isStep with ⟨place, here⟩
  have withoutNew := wellFormed.without_new (graph.newStep details) fresh graph.freshNumber
  rw [apply_remove here, (grown.without_removeAt here).unique withoutNew fun _ => Iff.rfl]

theorem apply_of_no_addition (graph : Graph) {edit : Edit}
    (noAddition : ∀ details, edit ≠ .add details) :
    (graph.apply edit).1.added? = none ∧ (graph.apply edit).2.counter = graph.counter := by
  constructor
  · cases edit with
    | add details => exact absurd rfl (noAddition details)
    | update id patch =>
        rw [apply]
        cases graph.updateStep id patch <;> rfl
    | remove | connect | disconnect => rfl
  · have change := change_apply graph edit
    generalize (graph.apply edit).2 = after at change ⊢
    cases change with
    | added details => exact absurd rfl (noAddition details)
    | patched | refused | removed | absent | repeated | declined | joined | parted | unconnected =>
        rfl

theorem Indexed.counter_apply {graph : Graph} (indexed : graph.Indexed) (edit : Edit) :
    ((graph.apply edit).1.added? = none ∧ (graph.apply edit).2.counter = graph.counter) ∨
      ∃ number, graph.counter < number ∧
        (graph.apply edit).1.added? = some (.numbered number) ∧
        (graph.apply edit).2.counter = number := by
  cases edit with
  | add details => exact .inr ⟨graph.freshNumber, indexed.freshNumber_least.1, rfl, rfl⟩
  | update | remove | connect | disconnect =>
      exact .inl (graph.apply_of_no_addition fun _ impossible => nomatch impossible)

theorem WellFormed.added_ascend {graph : Graph} (wellFormed : graph.WellFormed)
    (edits : List Edit) : ∃ numbers : List Nat,
      (graph.replies edits).filterMap Reply.added? = numbers.map .numbered ∧
        (graph.counter :: numbers).Pairwise (· < ·) := by
  induction edits generalizing graph with
  | nil => exact ⟨[], rfl, List.pairwise_singleton ..⟩
  | cons edit rest ih =>
      rcases ih ((change_apply graph edit).wellFormed wellFormed) with ⟨numbers, handedOut, ascend⟩
      rcases wellFormed.indexed.counter_apply edit with ⟨none, same⟩ | ⟨number, above, new, counted⟩
      · refine ⟨numbers, ?_, same ▸ ascend⟩
        rw [replies, List.filterMap_cons_none none, handedOut]
      · rw [counted] at ascend
        refine ⟨number :: numbers, ?_, ?_⟩
        · rw [replies, List.filterMap_cons_some new, handedOut, List.map_cons]
        · refine List.pairwise_cons.mpr ⟨?_, ascend⟩
          intro later member
          rcases List.mem_cons.mp member with rfl | behind
          · exact above
          · exact Nat.lt_trans above ((List.pairwise_cons.mp ascend).1 later behind)

/-- A new step gets the least number above the counter whose id is free, found in a bounded number
of tries. Nothing in the graph knows that id, so a removal undoes the addition, and no run hands out
the same id twice. -/
theorem allocation_fresh {start graph : Graph} {edits : List Edit} (initial : start.Initial)
    (reached : start.run edits = graph) :
    (∀ details, ∃ tries number grown,
      graph.apply (.add details) = (.added (.numbered number), grown) ∧
      graph.Search graph.counter tries number ∧ tries ≤ graph.size + 1 ∧
      graph.counter < number ∧ (∀ earlier, graph.counter < earlier → earlier < number →
        StepId.numbered earlier ∈ graph.ids) ∧
      graph.Unmentioned (.numbered number) ∧
      grown.apply (.remove (.numbered number)) =
        (.changed true, { graph with counter := number })) ∧
    ((start.replies edits).filterMap Reply.added?).Nodup := by
  have wellFormed : graph.WellFormed := reached ▸ initial.wellFormed.run edits
  rcases wellFormed.indexed.freshNumber_least with ⟨above, fresh, least⟩
  constructor
  · intro details
    rcases wellFormed.indexed.search_freshNumber with ⟨tries, bound, search⟩
    exact ⟨tries, graph.freshNumber, _, rfl, search, bound, above, least,
      wellFormed.unmentioned fresh, wellFormed.remove_new details⟩
  · rcases initial.wellFormed.added_ascend edits with ⟨numbers, handedOut, ascend⟩
    rw [handedOut]
    have distinct : numbers.Nodup := (List.pairwise_cons.mp ascend).2.imp Nat.ne_of_lt
    exact distinct.map fun _ _ => StepId.numbered_inj.mp

def attic : Graph :=
  ((ofParts [{ id := ⟨"step-3"⟩, name := "Attic" }, { id := ⟨"step-4"⟩, name := "Box" }]
    []).toOption).getD {}

def atticEdits : List Edit :=
  [.add { name := "Lamp" }, .remove ⟨"step-5"⟩, .add { name := "Chair" }, .remove ⟨"step-3"⟩,
    .add { name := "Table" }]

/-- The search passes over both steps and takes all the tries that it may. -/
theorem allocation_fresh_attic : attic.Initial ∧ attic.size = 2 ∧
    (∃ tries number grown,
      attic.apply (.add { name := "Lamp" }) = (.added (.numbered number), grown) ∧
      attic.Search attic.counter tries number ∧ tries ≤ 3 ∧
      grown.apply (.remove (.numbered number)) =
        (.changed true, { attic with counter := number })) ∧
    attic.counter = 2 ∧ (attic.apply (.add { name := "Lamp" })).1 = .added ⟨"step-5"⟩ ∧
    ((attic.replies atticEdits).filterMap Reply.added?).Nodup ∧
    (attic.replies atticEdits).filterMap Reply.added? =
      [⟨"step-5"⟩, ⟨"step-6"⟩, ⟨"step-7"⟩] := by
  have loaded : ofParts [{ id := ⟨"step-3"⟩, name := "Attic" }, { id := ⟨"step-4"⟩, name := "Box" }]
      [] = .ok attic := by decide +kernel
  have size : attic.size = 2 := by decide +kernel
  have initial := Initial.loaded loaded
  rcases (allocation_fresh initial (show attic.run [] = attic from rfl)).1 { name := "Lamp" } with
    ⟨tries, number, grown, added, search, bound, -, -, -, removed⟩
  rw [size] at bound
  exact ⟨initial, size, ⟨tries, number, grown, added, search, bound, removed⟩,
    by decide +kernel, by decide +kernel,
    (allocation_fresh initial (show attic.run atticEdits = _ from rfl)).2, by decide +kernel⟩

end StepFlow.Graph
