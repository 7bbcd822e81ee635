import StepFlow.Proofs.Graph.Cycles
import StepFlow.Proofs.Repeats

namespace StepFlow

def FirstRepeated (ids : List StepId) (id : StepId) : Prop :=
  ∃ before after, ids = before ++ id :: after ∧ before.Nodup ∧ id ∈ before

open Classical in
noncomputable def repairedSteps (steps : List Step) : List Step :=
  steps.mapIdx fun place step => if LosesParent steps place step then step.asRoot else step

def keptConnections (ids : List StepId) (connections : List Connection) : List Connection :=
  (connections.zipIdx.filter fun (connection, place) =>
    connection.source ∈ ids ∧ connection.target ∈ ids ∧
      connection ∉ connections.take place).map (·.1)

theorem exists_firstRepeated_iff (ids : List StepId) :
    (∃ id, FirstRepeated ids id) ↔ ¬ ids.Nodup := by
  constructor
  · intro given distinct
    rcases given with ⟨id, before, after, rfl, -, earlier⟩
    rcases List.nodup_append.mp distinct with ⟨-, -, apart⟩
    exact apart id earlier id List.mem_cons_self rfl
  · intro repeated
    induction ids using List.reverseRecOn with
    | nil => exact absurd List.nodup_nil repeated
    | append_singleton front last ih =>
        by_cases distinct : front.Nodup
        · refine ⟨last, front, [], rfl, distinct, ?_⟩
          by_contra absent
          apply repeated
          refine List.nodup_append.mpr ⟨distinct, List.nodup_singleton last, ?_⟩
          intro a inside b atEnd
          rw [List.mem_singleton.mp atEnd]
          exact ne_of_mem_of_not_mem inside absent
        · rcases ih distinct with ⟨id, before, after, split, first, again⟩
          exact ⟨id, before, after ++ [last], by rw [split, List.append_assoc, List.cons_append],
            first, again⟩

theorem repairedUpTo_length (steps : List Step) :
    repairedUpTo steps.length steps = repairedSteps steps := by
  classical
  apply List.ext_getElem?
  intro i
  rw [getElem?_repairedUpTo, repairedSteps, List.getElem?_mapIdx]
  cases here : steps[i]? with
  | none => rfl
  | some step =>
      have inside : i < steps.length := (List.getElem?_eq_some_iff.mp here).1
      simp [inside]

theorem keptConnections_eq (ids : List StepId) (connections : List Connection) :
    keptConnections ids connections = (connections.filter fun c =>
      decide (c.source ∈ ids) && decide (c.target ∈ ids)).eraseDups := by
  rw [eraseDups_filter, keptConnections]
  simp only [Bool.decide_and, Bool.and_assoc]

theorem mem_keptConnections {ids : List StepId} {connections : List Connection}
    {connection : Connection} : connection ∈ keptConnections ids connections ↔
      connection ∈ connections ∧ connection.source ∈ ids ∧ connection.target ∈ ids := by
  rw [keptConnections_eq, List.mem_eraseDups, List.mem_filter]
  simp

namespace Graph

theorem pushAll_ok {graph : Graph} (indexed : graph.Indexed) (steps : List Step)
    (distinct : (graph.ids ++ steps.map (·.id)).Nodup) :
    ∃ loaded, graph.pushAll steps = .ok loaded ∧ loaded.Indexed ∧
      loaded = { graph with steps := graph.steps ++ steps, index := loaded.index } := by
  induction steps generalizing graph with
  | nil => exact ⟨graph, rfl, indexed, by simp⟩
  | cons step rest ih =>
      have fresh : step.id ∉ graph.ids := by
        intro taken
        rcases List.nodup_append.mp distinct with ⟨-, -, apart⟩
        exact apart step.id taken step.id List.mem_cons_self rfl
      have distinctRest : ((graph.push step).ids ++ rest.map (·.id)).Nodup := by
        rw [ids_push, List.append_assoc]
        exact distinct
      rcases ih (indexed.push fresh) distinctRest with ⟨loaded, pushed, indexedToo, shape⟩
      refine ⟨loaded, ?_, indexedToo, ?_⟩
      · rw [pushAll, if_neg (mt (indexed.contains_iff step.id).mp fresh), pushed]
      · rw [shape]
        simp [push]

theorem pushAll_error_iff {graph : Graph} (indexed : graph.Indexed) (steps : List Step)
    (error : GraphError) :
    graph.pushAll steps = .error error ↔ ∃ id, error = .duplicateId id ∧
      ∃ before after, steps.map (·.id) = before ++ id :: after ∧
        (graph.ids ++ before).Nodup ∧ id ∈ graph.ids ++ before := by
  induction steps generalizing graph with
  | nil => simp [pushAll]
  | cons step rest ih =>
      rw [pushAll]
      by_cases taken : graph.contains step.id = true
      · have member := (indexed.contains_iff step.id).mp taken
        rw [if_pos taken]
        constructor
        · intro given
          cases given
          exact ⟨step.id, rfl, [], rest.map (·.id), rfl, by simpa using indexed.ids_nodup,
            by simpa using member⟩
        · intro given
          rcases given with ⟨id, rfl, before, after, split, distinct, -⟩
          cases before with
          | nil =>
              rcases List.cons.inj split with ⟨rfl, -⟩
              rfl
          | cons first front =>
              rcases List.cons.inj split with ⟨rfl, -⟩
              rcases List.nodup_append.mp distinct with ⟨-, -, apart⟩
              exact absurd rfl (apart step.id member step.id List.mem_cons_self)
      · have fresh := mt (indexed.contains_iff step.id).mpr taken
        rw [if_neg taken, ih (indexed.push fresh), ids_push]
        refine exists_congr fun id => and_congr_right fun _ => ?_
        constructor
        · intro given
          rcases given with ⟨before, after, split, distinct, again⟩
          rw [List.append_assoc] at distinct again
          exact ⟨step.id :: before, after, by rw [List.map_cons, split, List.cons_append],
            distinct, again⟩
        · intro given
          rcases given with ⟨before, after, split, distinct, again⟩
          cases before with
          | nil =>
              rcases List.cons.inj split with ⟨rfl, -⟩
              exact absurd (by simpa using again) fresh
          | cons first front =>
              rcases List.cons.inj split with ⟨rfl, rest⟩
              rw [← List.singleton_append, ← List.append_assoc] at distinct again
              exact ⟨front, after, rest, distinct, again⟩

theorem repairParent_partly {graph : Graph} {steps : List Step} {place : Nat} {step : Step}
    (partly : graph.PartlyRepaired steps place) (here : steps[place]? = some step) :
    graph.repairParent place = { graph with steps := repairedUpTo (place + 1) steps } := by
  rcases repairedUpTo_succ here with ⟨cleared, kept⟩
  have untouched : graph.steps[place]? = some step := by
    rw [partly.stepsSoFar, getElem?_repairedUpTo, here]
    simp
  have unchanged : repairedUpTo (place + 1) steps = repairedUpTo place steps →
      graph = { graph with steps := repairedUpTo (place + 1) steps } := by
    intro same
    rw [same, ← partly.stepsSoFar]
  unfold repairParent
  rw [untouched]
  dsimp only
  cases above : step.parent with
  | none => exact unchanged (kept (.inr above))
  | some parent =>
      have link : graph.parent? step.id = some parent := partly.parent?_iff.mpr
        ⟨place, step, here, rfl, above, fun before => Nat.lt_irrefl place before.1⟩
      have loops := (wouldLoop_iff_behind link).trans (partly.behind_iff step.id)
      have known := partly.indexed.contains_iff parent
      rw [partly.ids_eq] at known
      have test : (graph.contains parent && !graph.wouldLoop step.id parent) = true ↔
          ¬ LosesParent steps place step := by
        rw [Bool.and_eq_true, Bool.not_eq_true', ← Bool.not_eq_true, known, loops]
        constructor
        · rintro ⟨member, noCycle⟩ (⟨set, absent⟩ | ⟨onCycle, first⟩)
          · cases above.symm.trans set
            exact absent member
          · exact noCycle ⟨onCycle, first⟩
        · intro keeps
          refine ⟨?_, fun ⟨onCycle, first⟩ => keeps (.cyclic onCycle first)⟩
          by_contra absent
          exact keeps (.missing above absent)
      dsimp only
      by_cases loses : LosesParent steps place step
      · rw [if_neg (fun ok => test.mp ok loses), clearParent, cleared loses, partly.stepsSoFar]
      · rw [if_pos (test.mpr loses)]
        exact unchanged (kept (.inl loses))

theorem foldl_repairParent {loaded : Graph} (indexed : loaded.Indexed) {count : Nat}
    (bound : count ≤ loaded.size) :
    (List.range count).foldl repairParent loaded =
      { loaded with steps := repairedUpTo count loaded.steps } := by
  induction count with
  | zero => rw [repairedUpTo_zero]; rfl
  | succ count ih =>
      have partly : PartlyRepaired { loaded with steps := repairedUpTo count loaded.steps }
          loaded.steps count :=
        ⟨indexed.of_same_ids rfl (map_id_repairedUpTo count loaded.steps), rfl⟩
      obtain ⟨step, here⟩ : ∃ step, loaded.steps[count]? = some step :=
        ⟨_, List.getElem?_eq_getElem bound⟩
      rw [List.range_succ, List.foldl_append, ih (by omega), List.foldl_cons, List.foldl_nil,
        repairParent_partly partly here]

theorem repairParents_eq {loaded : Graph} (indexed : loaded.Indexed) :
    loaded.repairParents = { loaded with steps := repairedSteps loaded.steps } := by
  rw [repairParents, foldl_repairParent indexed (Nat.le_refl loaded.size), size,
    repairedUpTo_length]

theorem Indexed.soundConnections_eq {graph : Graph} (indexed : graph.Indexed)
    (connections : List Connection) :
    graph.soundConnections connections = keptConnections graph.ids connections := by
  have known (id : StepId) : graph.contains id = decide (id ∈ graph.ids) := by
    rw [Bool.eq_iff_iff, indexed.contains_iff, decide_eq_true_iff]
  rw [keptConnections_eq, soundConnections]
  simp only [known]

structure LoadedFrom (graph : Graph) (steps : List Step) (connections : List Connection) :
    Prop where
  distinct : (steps.map (·.id)).Nodup
  indexed : graph.Indexed
  stepsEq : graph.steps = repairedSteps steps
  connectionsEq : graph.connections = keptConnections (steps.map (·.id)) connections
  counterEq : graph.counter = steps.length
  debounceEq : graph.debounce = {}

theorem map_id_repairedSteps (steps : List Step) :
    (repairedSteps steps).map (·.id) = steps.map (·.id) := by
  rw [← repairedUpTo_length, map_id_repairedUpTo]

theorem LoadedFrom.ids_eq {graph : Graph} {steps : List Step} {connections : List Connection}
    (loaded : graph.LoadedFrom steps connections) : graph.ids = steps.map (·.id) := by
  rw [ids, loaded.stepsEq, map_id_repairedSteps]

theorem ofParts_ok {steps : List Step} (connections : List Connection)
    (distinct : (steps.map (·.id)).Nodup) :
    ∃ graph, ofParts steps connections = .ok graph ∧ graph.LoadedFrom steps connections := by
  obtain ⟨loaded, pushed, indexed, shape⟩ :=
    pushAll_ok (indexed_empty {} rfl rfl) steps distinct
  have loadedSteps : loaded.steps = steps := by rw [shape]; rfl
  have repaired := repairParents_eq indexed
  have sameIds : loaded.repairParents.ids = steps.map (·.id) := by
    rw [repaired, ids, map_id_repairedSteps, loadedSteps]
  have indexedToo : loaded.repairParents.Indexed := by
    refine indexed.of_same_ids (by rw [repaired]) ?_
    rw [sameIds, ids, loadedSteps]
  refine ⟨{ loaded.repairParents with
    connections := loaded.repairParents.soundConnections connections
    counter := loaded.repairParents.size }, by rw [ofParts, pushed]; rfl, ?_⟩
  exact {
    distinct
    indexed := indexedToo.of_same_ids rfl rfl
    stepsEq := by rw [repaired, loadedSteps]
    connectionsEq := by rw [indexedToo.soundConnections_eq, sameIds]
    counterEq := by rw [← length_ids, sameIds, List.length_map]
    debounceEq := by rw [repaired, shape] }

theorem ofParts_error_iff (steps : List Step) (connections : List Connection)
    (error : GraphError) : ofParts steps connections = .error error ↔
      ∃ id, error = .duplicateId id ∧ FirstRepeated (steps.map (·.id)) id := by
  have pushed := pushAll_error_iff (indexed_empty {} rfl rfl) steps error
  refine Iff.trans ?_ pushed
  rw [ofParts]
  cases pushAll {} steps with
  | error _ => exact Iff.rfl
  | ok _ =>
      constructor
      · intro impossible
        cases impossible
      · intro impossible
        cases impossible

theorem loadedFrom_of_ofParts {steps : List Step} {connections : List Connection} {graph : Graph}
    (loaded : ofParts steps connections = .ok graph) : graph.LoadedFrom steps connections := by
  have distinct : (steps.map (·.id)).Nodup := by
    by_contra repeated
    rcases (exists_firstRepeated_iff _).mpr repeated with ⟨id, first⟩
    have failed := (ofParts_error_iff steps connections _).mpr ⟨id, rfl, first⟩
    cases loaded.symm.trans failed
  rcases ofParts_ok connections distinct with ⟨graph', loaded', parts⟩
  obtain rfl : graph' = graph := Except.ok.inj (loaded'.symm.trans loaded)
  exact parts

/-- The least that makes a graph of the parts: no step is lost or changed but for parents that
cannot stay, and no connection is lost that has both ends. -/
structure MinimalRepair (steps : List Step) (connections : List Connection) (graph : Graph) :
    Prop where
  stepsEq : graph.steps = repairedSteps steps
  connectionsEq : graph.connections = keptConnections (steps.map (·.id)) connections
  oneLinkPerCycle : ∀ id, SameCycle steps id id → ∃! place : Nat, ∃ step,
    steps[place]? = some step ∧ SameCycle steps id step.id ∧ LosesParent steps place step
  othersKept : ∀ step ∈ steps, (∀ parent, step.parent = some parent → parent ∈ steps.map (·.id)) →
    ¬ SameCycle steps step.id step.id → step ∈ graph.steps

theorem LoadedFrom.minimalRepair {graph : Graph} {steps : List Step}
    {connections : List Connection} (loaded : graph.LoadedFrom steps connections) :
    MinimalRepair steps connections graph where
  stepsEq := loaded.stepsEq
  connectionsEq := loaded.connectionsEq
  oneLinkPerCycle := fun _ onCycle => existsUnique_losesParent loaded.distinct onCycle
  othersKept := by
    intro step member parentExists noCycle
    rcases List.mem_iff_getElem?.mp member with ⟨place, here⟩
    have keeps : ¬ LosesParent steps place step := by
      intro loses
      cases loses with
      | missing set absent => exact absent (parentExists _ set)
      | cyclic onCycle _ => exact noCycle onCycle
    rw [loaded.stepsEq]
    refine @List.mem_of_getElem? _ _ place _ ?_
    rw [repairedSteps, List.getElem?_mapIdx, here, Option.map_some, if_neg keeps]

/-- Loading fails on the first repeated id and otherwise repairs the graph as little as possible. -/
theorem ofParts_minimal (steps : List Step) (connections : List Connection) :
    (∀ error, ofParts steps connections = .error error ↔
      ∃ id, error = .duplicateId id ∧ FirstRepeated (steps.map (·.id)) id) ∧
    ((∃ id, FirstRepeated (steps.map (·.id)) id) ↔ ¬ (steps.map (·.id)).Nodup) ∧
    ((steps.map (·.id)).Nodup → ∃ graph, ofParts steps connections = .ok graph ∧
      MinimalRepair steps connections graph) := by
  refine ⟨ofParts_error_iff steps connections, exists_firstRepeated_iff _, ?_⟩
  intro distinct
  rcases ofParts_ok connections distinct with ⟨graph, loaded, parts⟩
  exact ⟨graph, loaded, parts.minimalRepair⟩

/-- A cycle of two steps with a third one leading into it, a step that is its own parent and one
whose parent is missing. -/
def tangle : List Step :=
  [{ id := ⟨"c"⟩, name := "C", parent := some ⟨"b"⟩ },
    { id := ⟨"b"⟩, name := "B", parent := some ⟨"a"⟩ },
    { id := ⟨"a"⟩, name := "A", parent := some ⟨"b"⟩ },
    { id := ⟨"s"⟩, name := "S", parent := some ⟨"s"⟩ },
    { id := ⟨"g"⟩, name := "G", parent := some ⟨"ghost"⟩ }]

def tangleConnections : List Connection :=
  [⟨⟨"a"⟩, ⟨"b"⟩, .success⟩, ⟨⟨"a"⟩, ⟨"ghost"⟩, .success⟩, ⟨⟨"a"⟩, ⟨"b"⟩, .success⟩]

theorem ofParts_minimal_tangle : (tangle.map (·.id)).Nodup ∧
    (∃ graph, ofParts tangle tangleConnections = .ok graph ∧
      MinimalRepair tangle tangleConnections graph) ∧
    (ofParts tangle tangleConnections).toOption.map (fun graph => graph.steps.map (·.parent)) =
      some [some ⟨"b"⟩, none, some ⟨"b"⟩, none, none] := by
  have distinct : (tangle.map (·.id)).Nodup := by decide
  exact ⟨distinct, (ofParts_minimal tangle tangleConnections).2.2 distinct, by decide +kernel⟩

end Graph

end StepFlow
