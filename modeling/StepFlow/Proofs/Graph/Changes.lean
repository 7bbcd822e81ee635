import StepFlow.Proofs.Graph.Ancestry

namespace StepFlow

theorem Step.id_orphan (step : Step) (gone : StepId) : (step.orphan gone).id = step.id := by
  rw [orphan]
  split <;> rfl

theorem Step.name_orphan (step : Step) (gone : StepId) : (step.orphan gone).name = step.name := by
  rw [orphan]
  split <;> rfl

theorem Step.parent_orphan {step : Step} {gone parent : StepId} :
    (step.orphan gone).parent = some parent ↔ step.parent = some parent ∧ parent ≠ gone := by
  rw [orphan]
  split
  · rename_i child
    constructor
    · intro impossible
      cases impossible
    · intro given
      rcases given with ⟨above, other⟩
      exact absurd (Option.some.inj (above.symm.trans child)) other
  · rename_i noChild
    constructor
    · intro above
      exact ⟨above, fun same => noChild (same ▸ above)⟩
    · exact And.left

namespace Graph

variable {graph : Graph}

theorem mem_ids_push {step : Step} {other : StepId} :
    other ∈ (graph.push step).ids ↔ other ∈ graph.ids ∨ other = step.id := by
  rw [ids_push, List.mem_append, List.mem_singleton]

theorem ids_patchAt (graph : Graph) (place : Nat) (patch : Patch) :
    (graph.patchAt place patch).ids = graph.ids := by
  apply List.ext_getElem?
  intro i
  rw [getElem?_ids, getElem?_ids, patchAt, List.getElem?_modify]
  cases graph.steps[i]? with
  | none => rfl
  | some step => by_cases here : place = i <;> simp [here, Patch.apply]

theorem ids_removeAt (graph : Graph) (id : StepId) (place : Nat) :
    (graph.removeAt id place).ids = graph.ids.eraseIdx place := by
  rw [ids, ids, List.eraseIdx_map, removeAt, List.map_map]
  exact List.map_congr_left fun step _ => step.id_orphan id

namespace Indexed

variable (indexed : graph.Indexed)

include indexed

theorem step?_push {step : Step} (fresh : step.id ∉ graph.ids) (other : StepId) :
    (graph.push step).step? other =
      if other = step.id then some step else graph.step? other := by
  apply Option.ext
  intro found
  rw [(indexed.push fresh).step?_eq_some_iff, Graph.push, List.mem_append, List.mem_singleton]
  by_cases same : other = step.id
  · rw [if_pos same, Option.some.injEq]
    constructor
    · intro given
      rcases given with ⟨old | new, named⟩
      · exact absurd (mem_ids.mpr ⟨found, old, named.trans same⟩) fresh
      · exact new.symm
    · intro same
      subst same
      exact ⟨.inr rfl, same.symm⟩
  · rw [if_neg same, indexed.step?_eq_some_iff]
    refine and_congr_left fun named => or_iff_left ?_
    intro same
    subst same
    exact same named.symm

theorem parent?_push {step : Step} (fresh : step.id ∉ graph.ids) (other : StepId) :
    (graph.push step).parent? other =
      if other = step.id then step.parent else graph.parent? other := by
  rw [parent?, indexed.step?_push fresh, parent?]
  split <;> rfl

theorem patchAt (place : Nat) (patch : Patch) : (graph.patchAt place patch).Indexed :=
  indexed.of_same_ids rfl (ids_patchAt graph place patch)

theorem place?_inj {id other : StepId} {place : Nat} (here : graph.place? id = some place)
    (there : graph.place? other = some place) : other = id := by
  have first := (indexed id place).mp here
  have second := (indexed other place).mp there
  exact Option.some.inj (second.symm.trans first)

theorem step?_patchAt {id : StepId} {place : Nat} (here : graph.place? id = some place)
    (patch : Patch) (other : StepId) :
    (graph.patchAt place patch).step? other =
      if other = id then (graph.step? id).map patch.apply else graph.step? other := by
  by_cases same : other = id
  · rw [if_pos same, same, step?, step?]
    show (graph.place? id).bind _ = _
    rw [here, Option.bind_some, Option.bind_some, Graph.patchAt, List.getElem?_modify_eq]
    rfl
  · rw [if_neg same, step?, step?]
    show (graph.place? other).bind _ = _
    cases there : graph.place? other with
    | none => rfl
    | some i =>
        have apart : place ≠ i := by
          intro same
          subst same
          exact same (indexed.place?_inj here there)
        rw [Option.bind_some, Option.bind_some, Graph.patchAt, List.getElem?_modify_ne _ _ apart]

theorem removeAt {id : StepId} {place : Nat} (here : graph.place? id = some place) :
    (graph.removeAt id place).Indexed :=
  indexed.eraseIdx here rfl (ids_removeAt graph id place)

theorem mem_ids_removeAt {id : StepId} {place : Nat} (here : graph.place? id = some place)
    (other : StepId) : other ∈ (graph.removeAt id place).ids ↔ other ∈ graph.ids ∧ other ≠ id := by
  have atPlace := (indexed id place).mp here
  rw [ids_removeAt, List.mem_eraseIdx_iff_getElem?]
  constructor
  · intro given
    rcases given with ⟨i, apart, there⟩
    refine ⟨List.mem_of_getElem? there, ?_⟩
    intro same
    subst same
    have inside : i < graph.ids.length := (List.getElem?_eq_some_iff.mp there).1
    exact apart ((List.getElem?_inj inside indexed.ids_nodup).mp (there.trans atPlace.symm))
  · intro given
    rcases given with ⟨member, differs⟩
    rcases List.mem_iff_getElem?.mp member with ⟨i, there⟩
    refine ⟨i, ?_, there⟩
    intro same
    subst same
    exact differs (Option.some.inj (there.symm.trans atPlace))

theorem step?_removeAt {id : StepId} {place : Nat} (here : graph.place? id = some place)
    (other : StepId) : (graph.removeAt id place).step? other =
      if other = id then none else (graph.step? other).map (·.orphan id) := by
  have afterwards := indexed.removeAt here
  apply Option.ext
  intro found
  by_cases same : other = id
  · rw [if_pos same]
    constructor
    · intro there
      rcases afterwards.step?_eq_some_iff.mp there with ⟨member, named⟩
      have still := (indexed.mem_ids_removeAt here other).mp (mem_ids.mpr ⟨found, member, named⟩)
      exact absurd same still.2
    · intro impossible
      cases impossible
  · rw [if_neg same, afterwards.step?_eq_some_iff, Option.map_eq_some_iff]
    constructor
    · intro given
      rcases given with ⟨member, named⟩
      rcases List.mem_map.mp member with ⟨old, kept, rfl⟩
      rw [Step.id_orphan] at named
      exact ⟨old, indexed.step?_eq_some_iff.mpr ⟨List.mem_of_mem_eraseIdx kept, named⟩, rfl⟩
    · intro given
      rcases given with ⟨old, there, rfl⟩
      rcases indexed.step?_eq_some_iff.mp there with ⟨member, named⟩
      rcases List.mem_iff_getElem?.mp member with ⟨i, atI⟩
      have apart : i ≠ place := by
        intro same
        subst same
        have atPlace := (indexed id i).mp here
        rw [getElem?_ids, atI, Option.map_some, named] at atPlace
        exact same (Option.some.inj atPlace)
      refine ⟨List.mem_map.mpr ⟨old, ?_, rfl⟩, (old.id_orphan id).trans named⟩
      exact List.mem_eraseIdx_iff_getElem?.mpr ⟨i, apart, atI⟩

theorem parent?_removeAt_iff {id : StepId} {place : Nat} (here : graph.place? id = some place)
    (other parent : StepId) : (graph.removeAt id place).parent? other = some parent ↔
      other ≠ id ∧ graph.parent? other = some parent ∧ parent ≠ id := by
  rw [parent?, indexed.step?_removeAt here, parent?]
  by_cases same : other = id
  · simp [same]
  · cases graph.step? other with
    | none => simp [same]
    | some step => simp [same, Step.parent_orphan]

end Indexed

end Graph

end StepFlow
