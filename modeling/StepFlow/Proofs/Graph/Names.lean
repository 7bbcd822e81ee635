import StepFlow.Proofs.Graph.Descent
import StepFlow.Proofs.Walk

/-!
Qualified names. A name is made of the names on the whole way down from a root, the name of the
parent first (`qualifiedName_child`). So it depends on what lies above a step only, and an edit can
change it for the steps below the edited one and for no others (`names_follow_ancestry`).
-/
namespace StepFlow.Graph

def ancestorNames (graph : Graph) (id : StepId) : List String :=
  ((graph.lineage id).filterMap graph.step?).reverse.map (·.name)

theorem qualifiedName_eq (graph : Graph) (id : StepId) :
    graph.qualifiedName id = nameSeparator.intercalate (graph.ancestorNames id) := rfl

variable {graph after : Graph} {id : StepId}

theorem Rooted.exists_endsAt (rooted : graph.Rooted id) :
    ∃ root, graph.parentLinks.EndsAt id root := by
  induction rooted with
  | @root id _ top => exact ⟨id, 0, rfl, top⟩
  | child link _ ih =>
      rcases ih with ⟨root, ends⟩
      exact ⟨root, ends.of_next link⟩

section Lineage

variable {step : Step} (found : graph.step? id = some step)

include found

theorem ancestorNames_root (top : step.parent = none) : graph.ancestorNames id = [step.name] := by
  have noLink : graph.parentLinks.next id = none := by
    show graph.parent? id = none
    rw [parent?, found, Option.bind_some, top]
  rw [ancestorNames, lineage, Links.trail_of_next_none _ noLink]
  simp [found]

theorem ancestorNames_child {parent : StepId} (rooted : graph.Rooted parent)
    (above : step.parent = some parent) :
    graph.ancestorNames id = graph.ancestorNames parent ++ [step.name] := by
  have link : graph.parentLinks.next id = some parent := by
    show graph.parent? id = some parent
    rw [parent?, found, Option.bind_some, above]
  rcases rooted.exists_endsAt with ⟨root, ends⟩
  rw [ancestorNames, ancestorNames, lineage, lineage, Links.trail_of_next _ link ends]
  simp [found]

end Lineage

theorem WellFormed.ancestorNames_ne_nil (wellFormed : graph.WellFormed) (isStep : id ∈ graph.ids) :
    graph.ancestorNames id ≠ [] := by
  rcases mem_ids.mp isStep with ⟨step, member, named⟩
  have found := wellFormed.indexed.step?_eq_some_iff.mpr ⟨member, named⟩
  cases above : step.parent with
  | none => simp [ancestorNames_root found above]
  | some parent =>
      have known := wellFormed.parentsExist step member parent above
      simp [ancestorNames_child found (wellFormed.rooted parent known) above]

theorem WellFormed.qualifiedName_root (wellFormed : graph.WellFormed) {step : Step}
    (member : step ∈ graph.steps) (top : step.parent = none) :
    graph.qualifiedName step.id = step.name := by
  have found := wellFormed.indexed.step?_eq_some_iff.mpr ⟨member, rfl⟩
  rw [qualifiedName_eq, ancestorNames_root found top, String.intercalate_singleton]

theorem WellFormed.qualifiedName_child (wellFormed : graph.WellFormed) {step : Step}
    (member : step ∈ graph.steps) {parent : StepId} (above : step.parent = some parent) :
    graph.qualifiedName step.id = graph.qualifiedName parent ++ " > " ++ step.name := by
  have found := wellFormed.indexed.step?_eq_some_iff.mpr ⟨member, rfl⟩
  have known := wellFormed.parentsExist step member parent above
  rw [qualifiedName_eq, ancestorNames_child found (wellFormed.rooted parent known) above,
    String.intercalate_append_of_ne_nil (wellFormed.ancestorNames_ne_nil known) (by simp),
    String.intercalate_singleton, qualifiedName_eq, nameSeparator]

theorem qualifiedName_congr
    (sameNames : ∀ other, graph.parentLinks.Reaches id other →
      (after.step? other).map (·.name) = (graph.step? other).map (·.name))
    (sameParents : ∀ other, graph.parentLinks.Reaches id other →
      after.parent? other = graph.parent? other) :
    after.qualifiedName id = graph.qualifiedName id := by
  have met (other : StepId) := graph.parentLinks.mem_trail id other
  have sameLineage : after.lineage id = graph.lineage id := by
    refine congrArg Walk.met (Links.walk_congr (fun _ => false) ?_)
    intro other member
    exact sameParents other ((met other).mp member)
  have sameSteps : (graph.lineage id).filterMap (fun other => (after.step? other).map (·.name)) =
      (graph.lineage id).filterMap fun other => (graph.step? other).map (·.name) := by
    refine List.filterMap_congr fun other member => ?_
    exact sameNames other ((met other).mp member)
  rw [qualifiedName, qualifiedName, sameLineage, List.map_reverse, List.map_reverse,
    List.map_filterMap, List.map_filterMap, sameSteps]

def MayRename (graph : Graph) : Edit → StepId → Prop
  | .update changed _, id => id = changed ∨ graph.Descends changed id
  | .remove gone, id => graph.Descends gone id
  | .add _, _ | .connect _ _, _ | .disconnect _, _ => False

theorem qualifiedName_of_step? (same : ∀ other, graph.parentLinks.Reaches id other →
    after.step? other = graph.step? other) : after.qualifiedName id = graph.qualifiedName id := by
  apply qualifiedName_congr
  · intro other above
    rw [same other above]
  · intro other above
    rw [parent?, parent?, same other above]

namespace WellFormed

variable (wellFormed : graph.WellFormed)

include wellFormed

theorem qualifiedName_push (step : Step) (fresh : step.id ∉ graph.ids) (isStep : id ∈ graph.ids) :
    (graph.push step).qualifiedName id = graph.qualifiedName id := by
  apply qualifiedName_of_step?
  intro other above
  have known := wellFormed.indexed.reaches_mem_ids wellFormed.parentsExist isStep above
  rw [wellFormed.indexed.step?_push fresh, if_neg (ne_of_mem_of_not_mem known fresh)]

theorem qualifiedName_patchAt {changed : StepId} {place : Nat}
    (here : graph.place? changed = some place) (patch : Patch)
    (apart : ¬ graph.parentLinks.Reaches id changed) :
    (graph.patchAt place patch).qualifiedName id = graph.qualifiedName id := by
  apply qualifiedName_of_step?
  intro other above
  have differs : other ≠ changed := fun same => apart (same ▸ above)
  rw [wellFormed.indexed.step?_patchAt here, if_neg differs]

theorem qualifiedName_removeAt {gone : StepId} {place : Nat} (here : graph.place? gone = some place)
    (apart : ¬ graph.parentLinks.Reaches id gone) :
    (graph.removeAt gone place).qualifiedName id = graph.qualifiedName id := by
  have differs {other : StepId} (above : graph.parentLinks.Reaches id other) : other ≠ gone :=
    fun same => apart (same ▸ above)
  have lookup := wellFormed.indexed.step?_removeAt here
  apply qualifiedName_congr
  · intro other above
    rw [lookup, if_neg (differs above), Option.map_map]
    congr 1
    funext step
    exact step.name_orphan gone
  · intro other above
    apply Option.ext
    intro parent
    rw [wellFormed.indexed.parent?_removeAt_iff here]
    constructor
    · exact fun given => given.2.1
    · intro link
      exact ⟨differs above, link, differs (above.tail link)⟩

theorem ancestorNames_removeAt {gone : StepId} {place : Nat}
    (here : graph.place? gone = some place) {path : List Step}
    (descent : graph.Descent gone path id) :
    (graph.removeAt gone place).ancestorNames id = path.map (·.name) := by
  have stillFound {step : Step} (isStep : step ∈ graph.steps) (differs : step.id ≠ gone) :
      (graph.removeAt gone place).step? step.id = some (step.orphan gone) := by
    rw [wellFormed.indexed.step?_removeAt here, if_neg differs,
      wellFormed.indexed.step?_eq_some_iff.mpr ⟨isStep, rfl⟩, Option.map_some]
  -- on the way down every step but the first keeps its parent, which is none of the removed ones
  induction descent with
  | @child step member =>
      have differs := wellFormed.ne_of_descent (.child member)
      rcases mem_children.mp member with ⟨isStep, above⟩
      have top : (step.orphan gone).parent = none := by rw [Step.orphan, if_pos above]; rfl
      rw [ancestorNames_root (stillFound isStep differs) top, step.name_orphan, List.map_singleton]
  | @deeper path id step descent member ih =>
      have differs := wellFormed.ne_of_descent (.deeper descent member)
      rcases mem_children.mp member with ⟨isStep, above⟩
      have stillAbove : (step.orphan gone).parent = some id :=
        Step.parent_orphan.mpr ⟨above, wellFormed.ne_of_descent descent⟩
      have known : id ∈ (graph.removeAt gone place).ids :=
        (wellFormed.indexed.mem_ids_removeAt here id).mpr
          ⟨descent.mem_ids, wellFormed.ne_of_descent descent⟩
      have rooted := (wellFormed.removeAt here).rooted id known
      rw [ancestorNames_child (stillFound isStep differs) rooted stillAbove, ih, step.name_orphan,
        List.map_append, List.map_singleton]

end WellFormed

theorem Change.qualifiedName_eq {edit : Edit} (change : graph.Change edit after)
    (wellFormed : graph.WellFormed) (isStep : id ∈ graph.ids) (stays : id ∈ after.ids)
    (apart : ¬ graph.MayRename edit id) : after.qualifiedName id = graph.qualifiedName id := by
  cases change with
  | refused | absent | repeated | unconnected => rfl
  | declined | joined | parted => exact qualifiedName_of_step? fun _ _ => rfl
  | added details =>
      have fresh := wellFormed.indexed.freshNumber_least.2.1
      rw [← wellFormed.qualifiedName_push (graph.newStep details) fresh isStep]
      exact qualifiedName_of_step? fun _ _ => rfl
  | @patched changed place patch here _ =>
      rcases not_or.mp apart with ⟨differs, notBelow⟩
      exact wellFormed.qualifiedName_patchAt here patch (wellFormed.indexed.not_reaches differs notBelow)
  | removed here =>
      have differs := ((wellFormed.indexed.mem_ids_removeAt here id).mp stays).2
      exact wellFormed.qualifiedName_removeAt here (wellFormed.indexed.not_reaches differs apart)

/-- The name of a step is its own one behind that of its parent. An edit leaves all names alone but
those of the step it changes and of what lies below that, and after a removal the names below start
with the child of the removed step that they lead through. -/
theorem names_follow_ancestry (reachable : graph.Reachable) :
    (∀ step ∈ graph.steps, step.parent = none → graph.qualifiedName step.id = step.name) ∧
    (∀ step ∈ graph.steps, ∀ parent, step.parent = some parent →
      graph.qualifiedName step.id = graph.qualifiedName parent ++ " > " ++ step.name) ∧
    (∀ edit, ∀ id ∈ graph.ids, id ∈ (graph.apply edit).2.ids → ¬ graph.MayRename edit id →
      (graph.apply edit).2.qualifiedName id = graph.qualifiedName id) ∧
    ∀ gone path id, graph.Descent gone path id →
      (graph.apply (.remove gone)).2.qualifiedName id = " > ".intercalate (path.map (·.name)) := by
  have wellFormed := reachable.wellFormed
  refine ⟨fun _ => wellFormed.qualifiedName_root,
    fun _ member _ => wellFormed.qualifiedName_child member,
    fun edit _ => (change_apply graph edit).qualifiedName_eq wellFormed, ?_⟩
  intro gone path id descent
  have above := wellFormed.indexed.behind_of_descent descent
  have isStep := wellFormed.indexed.reaches_mem_ids wellFormed.parentsExist descent.mem_ids
    above.to_reflTransGen
  rcases wellFormed.indexed.exists_place isStep with ⟨place, here⟩
  rw [apply_remove here, qualifiedName_eq, wellFormed.ancestorNames_removeAt here descent,
    nameSeparator]

theorem names_follow_ancestry_house : house.Reachable ∧
    house.qualifiedName hall.id = "Hall" ∧
    house.qualifiedName shelf.id = house.qualifiedName room.id ++ " > " ++ "Shelf" ∧
    ¬ house.MayRename (.update room.id { name := some "Attic" }) hall.id ∧
    (house.apply (.update room.id { name := some "Attic" })).2.qualifiedName hall.id =
      house.qualifiedName hall.id ∧
    house.Descent hall.id ([room] ++ [shelf]) shelf.id ∧
    (house.apply (.remove hall.id)).2.qualifiedName shelf.id = "Room > Shelf" := by
  rcases names_follow_ancestry reachable_house with ⟨root, child, kept, removed⟩
  have inHouse : hall ∈ house.steps ∧ shelf ∈ house.steps := by rw [steps_house]; decide
  have apart : ¬ house.MayRename (.update room.id { name := some "Attic" }) hall.id := by
    rintro (same | below)
    · exact absurd same (by decide)
    · have path := reachable_house.wellFormed.indexed.reaches_iff.mpr (.inr below)
      rw [← wouldLoop_iff] at path
      exact absurd path (by decide +kernel)
  refine ⟨reachable_house, root hall inHouse.1 rfl, child shelf inHouse.2 _ rfl, apart,
    kept _ hall.id (by decide +kernel) (by decide +kernel) apart, descent_house, ?_⟩
  rw [removed hall.id _ _ descent_house]
  decide

end StepFlow.Graph
