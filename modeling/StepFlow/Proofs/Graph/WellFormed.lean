import StepFlow.Proofs.Graph.Changes
import StepFlow.Proofs.Graph.Load

/-!
The invariant of graphs. A graph is well-formed if its ids differ, its index is right, its parents
are steps that lead to a root, and its connections differ and join steps. Loading gives a
well-formed graph, and each way of changing one, with what is checked before it, keeps it so.
-/
namespace StepFlow.Graph

structure WellFormed (graph : Graph) : Prop where
  distinctIds : graph.ids.Nodup
  indexed : graph.Indexed
  parentsExist : graph.ParentsExist
  rooted : ∀ id ∈ graph.ids, graph.Rooted id
  distinctConnections : graph.connections.Nodup
  endsExist : ∀ connection ∈ graph.connections,
    connection.source ∈ graph.ids ∧ connection.target ∈ graph.ids

theorem wellFormed_of_no_steps {graph : Graph} (noSteps : graph.steps = [])
    (noIndex : graph.index = ∅) (noConnections : graph.connections = []) : graph.WellFormed where
  distinctIds := by simp [ids, noSteps]
  indexed := indexed_empty graph noSteps noIndex
  parentsExist := by simp [ParentsExist, noSteps]
  rooted := by simp [ids, noSteps]
  distinctConnections := by simp [noConnections]
  endsExist := by simp [noConnections]

theorem LoadedFrom.wellFormed {graph : Graph} {steps : List Step} {connections : List Connection}
    (loaded : graph.LoadedFrom steps connections) : graph.WellFormed := by
  have partly : graph.PartlyRepaired steps steps.length :=
    ⟨loaded.indexed, by rw [loaded.stepsEq, repairedUpTo_length]⟩
  have parentsExist : graph.ParentsExist := by
    intro step member parent above
    obtain ⟨i, before, here, named, set, kept⟩ := partly.parent?_iff.mp
      (loaded.indexed.parent?_eq_some_iff.mpr ⟨step, member, rfl, above⟩)
    by_contra absent
    rw [loaded.ids_eq] at absent
    exact kept ⟨(List.getElem?_eq_some_iff.mp here).1, .missing set absent⟩
  have acyclic (id : StepId) : ¬ graph.parentLinks.Behind id id := by
    intro cycle
    rcases (partly.behind_iff id).mp cycle with ⟨onCycle, first⟩
    rcases exists_place_of_transGen onCycle.1 with ⟨place, step, here, named⟩
    exact first place (List.getElem?_eq_some_iff.mp here).1 step here (named.symm ▸ onCycle)
  exact {
    distinctIds := loaded.indexed.ids_nodup
    indexed := loaded.indexed
    parentsExist
    rooted := fun _ isStep => loaded.indexed.rooted_of_acyclic parentsExist acyclic isStep
    distinctConnections := by
      rw [loaded.connectionsEq, keptConnections_eq]
      exact nodup_eraseDups _
    endsExist := by
      intro connection member
      rw [loaded.connectionsEq] at member
      rw [loaded.ids_eq]
      exact (mem_keptConnections.mp member).2 }

theorem Rooted.transfer {before after : Graph} (indexed : before.Indexed)
    (stay : ∀ id ∈ before.ids, id ∈ after.ids)
    (sameParent : ∀ id ∈ before.ids, after.parent? id = before.parent? id) {id : StepId}
    (rooted : before.Rooted id) : after.Rooted id := by
  induction rooted with
  | root isStep top => exact .root (stay _ isStep) ((sameParent _ isStep).trans top)
  | child link _ ih =>
      exact .child ((sameParent _ (indexed.mem_ids_of_parent? link)).trans link) ih

section

variable {before after : Graph} {id other : StepId} (sameIds : after.ids = before.ids)
  (elsewhere : ∀ other, other ≠ id → after.parent? other = before.parent? other)

include sameIds elsewhere

theorem Rooted.of_apart (rooted : before.Rooted other)
    (apart : ¬ before.parentLinks.Reaches other id) : after.Rooted other := by
  induction rooted with
  | @root other isStep top =>
      have differs : other ≠ id := fun same => apart (same ▸ .refl)
      exact .root (sameIds ▸ isStep) ((elsewhere other differs).trans top)
  | @child other parent link _ ih =>
      have differs : other ≠ id := fun same => apart (same ▸ .refl)
      exact .child ((elsewhere other differs).trans link) (ih fun path => apart (.head link path))

theorem Rooted.of_changed (rooted : before.Rooted other) (changed : after.Rooted id) :
    after.Rooted other := by
  induction rooted with
  | @root other isStep top =>
      by_cases same : other = id
      · exact same ▸ changed
      · exact .root (sameIds ▸ isStep) ((elsewhere other same).trans top)
  | @child other parent link _ ih =>
      by_cases same : other = id
      · exact same ▸ changed
      · exact .child ((elsewhere other same).trans link) ih

end

theorem Indexed.parentsExist_of_parent? {graph : Graph} (indexed : graph.Indexed)
    (exist : ∀ id parent, graph.parent? id = some parent → parent ∈ graph.ids) :
    graph.ParentsExist := by
  intro step member parent above
  exact exist step.id parent (indexed.parent?_eq_some_iff.mpr ⟨step, member, rfl, above⟩)

namespace WellFormed

variable {graph : Graph} (wellFormed : graph.WellFormed)

include wellFormed

theorem acyclic (id : StepId) : ¬ graph.parentLinks.Behind id id := by
  intro cycle
  rcases Relation.TransGen.head'_iff.mp cycle with ⟨parent, link, -⟩
  exact (wellFormed.rooted id (wellFormed.indexed.mem_ids_of_parent? link)).not_cyclic cycle

theorem frame {after : Graph} (sameSteps : after.steps = graph.steps)
    (sameIndex : after.index = graph.index) (distinct : after.connections.Nodup)
    (ends : ∀ connection ∈ after.connections,
      connection.source ∈ graph.ids ∧ connection.target ∈ graph.ids) : after.WellFormed := by
  have sameIds : after.ids = graph.ids := by rw [ids, ids, sameSteps]
  have sameParent (id : StepId) : after.parent? id = graph.parent? id := by
    rw [parent?, parent?, step?, step?, place?, place?, sameSteps, sameIndex]
  exact {
    distinctIds := sameIds ▸ wellFormed.distinctIds
    indexed := wellFormed.indexed.of_same_ids sameIndex sameIds
    parentsExist := by
      rw [ParentsExist, sameSteps, sameIds]
      exact wellFormed.parentsExist
    rooted := by
      intro id isStep
      rw [sameIds] at isStep
      refine (wellFormed.rooted id isStep).transfer wellFormed.indexed ?_ fun id _ => sameParent id
      intro id isStep
      rw [sameIds]
      exact isStep
    distinctConnections := distinct
    endsExist := by
      rw [sameIds]
      exact ends }

theorem push {step : Step} (fresh : step.id ∉ graph.ids)
    (parentExists : ∀ parent, step.parent = some parent → parent ∈ graph.ids) :
    (graph.push step).WellFormed := by
  have indexed := wellFormed.indexed.push fresh
  have stay : ∀ id ∈ graph.ids, id ∈ (graph.push step).ids :=
    fun id isStep => mem_ids_push.mpr (.inl isStep)
  have sameParent : ∀ id ∈ graph.ids, (graph.push step).parent? id = graph.parent? id := by
    intro id isStep
    rw [wellFormed.indexed.parent?_push fresh, if_neg (ne_of_mem_of_not_mem isStep fresh)]
  have newParent : (graph.push step).parent? step.id = step.parent := by
    rw [wellFormed.indexed.parent?_push fresh, if_pos rfl]
  have stillRooted : ∀ id ∈ graph.ids, (graph.push step).Rooted id :=
    fun id isStep => (wellFormed.rooted id isStep).transfer wellFormed.indexed stay sameParent
  exact {
    distinctIds := indexed.ids_nodup
    indexed
    parentsExist := by
      intro other member parent above
      rcases List.mem_append.mp member with old | new
      · exact stay parent (wellFormed.parentsExist other old parent above)
      · rw [List.mem_singleton.mp new] at above
        exact stay parent (parentExists parent above)
    rooted := by
      intro id isStep
      rcases mem_ids_push.mp isStep with old | new
      · exact stillRooted id old
      · subst new
        cases above : step.parent with
        | none => exact .root isStep (newParent.trans above)
        | some parent =>
            exact .child (newParent.trans above) (stillRooted parent (parentExists parent above))
    distinctConnections := wellFormed.distinctConnections
    endsExist := by
      intro connection member
      rcases wellFormed.endsExist connection member with ⟨source, target⟩
      exact ⟨stay _ source, stay _ target⟩ }

/-- A parent that is a step and not below the patched one keeps the parents a forest; a parent
that the step has already is no descendant of it. -/
theorem patchAt {id : StepId} {place : Nat} (here : graph.place? id = some place) {patch : Patch}
    (allowed : ∀ parent, patch.parent = some (some parent) →
      parent ∈ graph.ids ∧ ¬ graph.parentLinks.Reaches parent id) :
    (graph.patchAt place patch).WellFormed := by
  have indexed := wellFormed.indexed.patchAt place patch
  have sameIds := ids_patchAt graph place patch
  have isStep := wellFormed.indexed.mem_ids_of_place? here
  have lookup := wellFormed.indexed.step?_patchAt here patch
  have elsewhere (other : StepId) (differs : other ≠ id) :
      (graph.patchAt place patch).parent? other = graph.parent? other := by
    rw [parent?, lookup, if_neg differs, parent?]
  have newParent {parent : StepId} (link : (graph.patchAt place patch).parent? id = some parent) :
      parent ∈ graph.ids ∧ ¬ graph.parentLinks.Reaches parent id := by
    rw [parent?, lookup, if_pos rfl] at link
    rcases Option.bind_eq_some_iff.mp link with ⟨patched, found, above⟩
    rcases Option.map_eq_some_iff.mp found with ⟨step, there, rfl⟩
    cases set : patch.parent with
    | some parent' =>
        have chosen : parent' = some parent := by simpa [Patch.apply, set] using above
        exact allowed parent (set.trans (congrArg some chosen))
    | none =>
        have oldLink : graph.parent? id = some parent := by
          rw [parent?, there, Option.bind_some]
          simpa [Patch.apply, set] using above
        refine ⟨wellFormed.indexed.parent_mem_ids wellFormed.parentsExist oldLink, ?_⟩
        intro path
        exact wellFormed.acyclic id (.head' oldLink path)
  have atStep : (graph.patchAt place patch).Rooted id := by
    cases link : (graph.patchAt place patch).parent? id with
    | none => exact .root (sameIds ▸ isStep) link
    | some parent =>
        rcases newParent link with ⟨known, apart⟩
        exact .child link (.of_apart sameIds elsewhere (wellFormed.rooted parent known) apart)
  exact {
    distinctIds := indexed.ids_nodup
    indexed
    parentsExist := by
      refine indexed.parentsExist_of_parent? fun other parent link => ?_
      rw [sameIds]
      by_cases same : other = id
      · exact (newParent (same ▸ link)).1
      · rw [elsewhere other same] at link
        exact wellFormed.indexed.parent_mem_ids wellFormed.parentsExist link
    rooted := by
      intro other known
      rw [sameIds] at known
      exact .of_changed sameIds elsewhere (wellFormed.rooted other known) atStep
    distinctConnections := wellFormed.distinctConnections
    endsExist := by
      rw [sameIds]
      exact wellFormed.endsExist }

theorem removeAt {id : StepId} {place : Nat} (here : graph.place? id = some place) :
    (graph.removeAt id place).WellFormed := by
  have indexed := wellFormed.indexed.removeAt here
  have known := wellFormed.indexed.mem_ids_removeAt here
  have links := wellFormed.indexed.parent?_removeAt_iff here
  have rooted {other : StepId} (above : graph.Rooted other) (differs : other ≠ id) :
      (graph.removeAt id place).Rooted other := by
    induction above with
    | @root other isStep top =>
        refine .root ((known other).mpr ⟨isStep, differs⟩)
          (Option.eq_none_iff_forall_ne_some.mpr ?_)
        intro parent link
        cases top.symm.trans ((links other parent).mp link).2.1
    | @child other parent link _ ih =>
        by_cases same : parent = id
        · -- the step was a child of the removed one and is a root now
          have isStep := wellFormed.indexed.mem_ids_of_parent? link
          refine .root ((known other).mpr ⟨isStep, differs⟩)
            (Option.eq_none_iff_forall_ne_some.mpr ?_)
          intro parent' link'
          rcases (links other parent').mp link' with ⟨-, old, apart⟩
          exact apart ((Option.some.inj (old.symm.trans link)).trans same)
        · exact .child ((links other parent).mpr ⟨differs, link, same⟩) (ih same)
  exact {
    distinctIds := indexed.ids_nodup
    indexed
    parentsExist := by
      refine indexed.parentsExist_of_parent? fun other parent link => ?_
      rcases (links other parent).mp link with ⟨-, old, differs⟩
      exact (known parent).mpr
        ⟨wellFormed.indexed.parent_mem_ids wellFormed.parentsExist old, differs⟩
    rooted := by
      intro other isStep
      rcases (known other).mp isStep with ⟨old, differs⟩
      exact rooted (wellFormed.rooted other old) differs
    distinctConnections := wellFormed.distinctConnections.filter _
    endsExist := by
      intro connection member
      rcases List.mem_filter.mp member with ⟨old, apart⟩
      rcases wellFormed.endsExist connection old with ⟨source, target⟩
      simp only [Connection.touches, Bool.not_eq_true', Bool.or_eq_false_iff,
        decide_eq_false_iff_not] at apart
      exact ⟨(known _).mpr ⟨source, apart.1⟩, (known _).mpr ⟨target, apart.2⟩⟩ }

end WellFormed

end StepFlow.Graph
