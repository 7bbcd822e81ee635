import StepFlow.Proofs.Graph.Load
import StepFlow.Proofs.Walk

/-!
The test for loops on any graph with a right index, so also on one that is yet to be repaired: its
parents may be missing, and its steps may lie above themselves. A climb from step to parent ends on
all of them, since it looks at no id twice and only the last id it looks at can fail to be a step.
The test is true exactly if the climb comes to the id (`wouldLoop_exact`).
-/
namespace StepFlow

def Walk.looked {α : Type} (walk : Walk α) : List α := walk.met ++ walk.ending.goal?.toList

namespace Links

variable {α : Type} {links : Links α} {goal : α → Bool} {start : α}

theorem Path.exists_next {met : List α} (path : Path links goal start met) {node : α}
    (member : node ∈ met.dropLast) : ∃ next, links.next node = some next := by
  rcases List.mem_iff_getElem?.mp member with ⟨n, here⟩
  have bound : n < met.length - 1 := by
    rw [← List.length_dropLast]
    exact (List.getElem?_eq_some_iff.mp here).1
  have there := path.nodes n (by omega)
  rw [List.getElem?_dropLast, if_pos bound] at here
  have link := path.nodes (n + 1) (by omega)
  rw [nth, ← there, here, Option.bind_some, List.getElem?_eq_getElem (by omega)] at link
  exact ⟨_, link.symm⟩

theorem path_looked [DecidableEq α] (links : Links α) (startFree : goal start = false) :
    Path links (fun _ => false) start (links.walk goal start).looked := by
  have follows := links.walk_follows goal start
  have path : Path links (fun _ => false) start (links.walk goal start).met :=
    { follows.toPath with goalFree := fun _ _ => rfl }
  have ends := follows.ends
  rw [Walk.looked]
  cases ended : (links.walk goal start).ending with
  | stuck last => simpa [WalkEnd.goal?] using path
  | looped repeated => simpa [WalkEnd.goal?] using path
  | arrived node =>
      rw [ended] at ends
      refine path.push ends.1 ?_ rfl
      intro met
      simp [follows.goal_met startFree met] at ends

end Links

namespace Graph

def climb (graph : Graph) (id parent : StepId) : Walk StepId :=
  if parent = id then ⟨[], .arrived id⟩ else graph.parentLinks.walk (· = id) parent

theorem path_climb (graph : Graph) (id parent : StepId) :
    Links.Path graph.parentLinks (fun _ => false) parent (graph.climb id parent).looked := by
  rw [climb]
  split
  · rename_i same
    subst same
    exact Links.Path.single graph.parentLinks _ parent
  · rename_i different
    exact graph.parentLinks.path_looked (decide_eq_false different)

/-- It makes no difference for the test that it goes all the way up. -/
theorem wouldLoop_eq_climb (graph : Graph) (id parent : StepId) :
    graph.wouldLoop id parent = (graph.climb id parent).ending.goal?.isSome := by
  rw [Bool.eq_iff_iff, wouldLoop_iff, climb]
  split
  · rename_i same
    subst same
    simp [Links.Reaches, Relation.ReflTransGen.refl, WalkEnd.goal?]
  · rename_i different
    have arrives := graph.parentLinks.walk_arrived_iff (· = id) (decide_eq_false different)
    rw [Option.isSome_iff_exists, Links.reaches_iff_nth]
    simp only [WalkEnd.goal?_eq_some_iff, arrives, Links.exists_firstGoal_iff, decide_eq_true_iff,
      exists_eq_right]

theorem ids_clearParent (graph : Graph) (place : Nat) :
    (graph.clearParent place).ids = graph.ids := by
  apply List.ext_getElem?
  intro i
  rw [getElem?_ids, getElem?_ids, clearParent, List.getElem?_modify]
  cases graph.steps[i]? with
  | none => rfl
  | some step => by_cases here : place = i <;> simp [here, Step.asRoot]

namespace Indexed

variable {graph : Graph} (indexed : graph.Indexed)

include indexed

theorem length_le_of_path {goal : StepId → Bool} {start : StepId} {met : List StepId}
    (path : Links.Path graph.parentLinks goal start met) : met.length ≤ graph.size + 1 := by
  -- All ids but the last have a parent, so they are ids of steps; the last may be of none.
  have distinct : met.dropLast.Nodup := path.distinct.sublist (List.dropLast_sublist met)
  have steps : met.dropLast ⊆ graph.ids := by
    intro id member
    rcases path.exists_next member with ⟨parent, link⟩
    exact indexed.mem_ids_of_parent? link
  have bound := distinct.length_le_of_subset steps
  rw [List.length_dropLast, length_ids] at bound
  omega

theorem pushAll {steps : List Step} {loaded : Graph} (pushed : graph.pushAll steps = .ok loaded) :
    loaded.Indexed := by
  induction steps generalizing graph with
  | nil =>
      cases pushed
      exact indexed
  | cons step rest ih =>
      rw [Graph.pushAll] at pushed
      split at pushed
      · cases pushed
      · rename_i fresh
        exact ih (indexed.push (mt (indexed.contains_iff step.id).mpr fresh)) pushed

theorem repairParent (place : Nat) : (graph.repairParent place).Indexed := by
  have cleared : (graph.clearParent place).Indexed :=
    indexed.of_same_ids rfl (graph.ids_clearParent place)
  rw [Graph.repairParent]
  split
  · exact indexed
  · split
    · exact indexed
    · split
      · exact indexed
      · exact cleared

end Indexed

theorem indexed_loading {steps : List Step} {loaded : Graph}
    (pushed : Graph.pushAll {} steps = .ok loaded) (places : List Nat) :
    (places.foldl repairParent loaded).Indexed := by
  induction places using List.reverseRecOn with
  | nil => exact (indexed_empty {} rfl rfl).pushAll pushed
  | append_singleton front last ih =>
      rw [List.foldl_append]
      exact ih.repairParent last

/-- On any graph with a right index, whatever its parents, the test is true exactly if following
parents from the new one, zero or more times, comes to the id. The ids that it looks at are all
different and at most one more than there are steps, and so they are if it stops at the id. -/
theorem wouldLoop_exact {graph : Graph} (indexed : graph.Indexed) (id parent : StepId) :
    (graph.wouldLoop id parent = true ↔ Relation.ReflTransGen (ParentIn graph.steps) parent id) ∧
      (graph.lineage parent).Nodup ∧ (graph.lineage parent).length ≤ graph.size + 1 ∧
      graph.wouldLoop id parent = (graph.climb id parent).ending.goal?.isSome ∧
      (graph.climb id parent).looked.Nodup ∧
      (graph.climb id parent).looked.length ≤ graph.size + 1 := by
  have links : (fun child parent => graph.parent? child = some parent) = ParentIn graph.steps := by
    funext child parent
    exact propext indexed.parent?_eq_some_iff
  have lineage := (graph.parentLinks.walk_follows (fun _ => false) parent).toPath
  have climb := graph.path_climb id parent
  refine ⟨?_, lineage.distinct, indexed.length_le_of_path lineage,
    graph.wouldLoop_eq_climb id parent, climb.distinct, indexed.length_le_of_path climb⟩
  rw [wouldLoop_iff, ← links]
  rfl

/-- The tangle when only its first step has been looked at. That step lies on no cycle, but its
parent does. -/
def tangled : Graph := ((pushAll {} tangle).toOption.getD {}).repairParent 0

theorem wouldLoop_exact_tangled : tangled.Indexed ∧
    (tangled.wouldLoop ⟨"c"⟩ ⟨"b"⟩ = true ↔
      Relation.ReflTransGen (ParentIn tangled.steps) ⟨"b"⟩ ⟨"c"⟩) ∧
    tangled.wouldLoop ⟨"c"⟩ ⟨"b"⟩ = false ∧ tangled.lineage ⟨"b"⟩ = [⟨"b"⟩, ⟨"a"⟩] ∧
    tangled.wouldLoop ⟨"ghost"⟩ ⟨"g"⟩ = true ∧ tangled.wouldLoop ⟨"s"⟩ ⟨"s"⟩ = true := by
  have pushed : pushAll {} tangle = .ok ((pushAll {} tangle).toOption.getD {}) := by rfl
  have indexed : tangled.Indexed := indexed_loading pushed [0]
  exact ⟨indexed, (wouldLoop_exact indexed ⟨"c"⟩ ⟨"b"⟩).1, by decide +kernel, by decide +kernel,
    by decide +kernel, by decide +kernel⟩

end Graph

end StepFlow
