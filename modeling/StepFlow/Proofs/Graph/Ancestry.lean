import StepFlow.Proofs.Graph.Index
import StepFlow.Proofs.Links

/-!
Parents and what lies above them. `Rooted` says that following parents from a step comes to a root,
which rules out cycles and, where all parents are steps, follows from there being none. The test
for loops asks exactly whether a step is reached from its new parent.
-/
namespace StepFlow.Graph

inductive Rooted (graph : Graph) : StepId → Prop
  | root {id : StepId} (isStep : id ∈ graph.ids) (top : graph.parent? id = none) : Rooted graph id
  | child {id parent : StepId} (link : graph.parent? id = some parent)
      (above : Rooted graph parent) : Rooted graph id

def ParentsExist (graph : Graph) : Prop :=
  ∀ step ∈ graph.steps, ∀ parent, step.parent = some parent → parent ∈ graph.ids

theorem wouldLoop_iff (graph : Graph) (id parent : StepId) :
    graph.wouldLoop id parent = true ↔ graph.parentLinks.Reaches parent id := by
  rw [wouldLoop, decide_eq_true_iff, lineage]
  exact graph.parentLinks.mem_trail parent id

theorem wouldLoop_iff_behind {graph : Graph} {id parent : StepId}
    (link : graph.parent? id = some parent) :
    graph.wouldLoop id parent = true ↔ graph.parentLinks.Behind id id := by
  rw [wouldLoop_iff]
  constructor
  · exact Relation.TransGen.head' link
  · intro cycle
    rcases Relation.TransGen.head'_iff.mp cycle with ⟨parent', link', path⟩
    obtain rfl : parent = parent' := Option.some.inj (link.symm.trans link')
    exact path

theorem Rooted.not_cyclic {graph : Graph} {id : StepId} (rooted : graph.Rooted id) :
    ¬ graph.parentLinks.Behind id id := by
  induction rooted with
  | root _ top =>
      intro cycle
      rcases Relation.TransGen.head'_iff.mp cycle with ⟨parent, link, _⟩
      cases top.symm.trans link
  | child link _ ih =>
      intro cycle
      rcases Relation.TransGen.head'_iff.mp cycle with ⟨parent, first, back⟩
      cases link.symm.trans first
      exact ih (.tail' back link)

theorem Rooted.of_reaches {graph : Graph} {id last : StepId}
    (path : graph.parentLinks.Reaches id last) (rooted : graph.Rooted last) : graph.Rooted id := by
  induction path using Relation.ReflTransGen.head_induction_on with
  | refl => exact rooted
  | head link _ ih => exact .child link ih

namespace Indexed

variable {graph : Graph} (indexed : graph.Indexed)

include indexed

theorem mem_ids_of_parent? {id parent : StepId} (link : graph.parent? id = some parent) :
    id ∈ graph.ids := by
  rcases indexed.parent?_eq_some_iff.mp link with ⟨step, member, named, _⟩
  exact mem_ids.mpr ⟨step, member, named⟩

theorem parent_mem_ids (parentsExist : graph.ParentsExist) {id parent : StepId}
    (link : graph.parent? id = some parent) : parent ∈ graph.ids := by
  rcases indexed.parent?_eq_some_iff.mp link with ⟨step, member, _, above⟩
  exact parentsExist step member parent above

theorem reaches_mem_ids (parentsExist : graph.ParentsExist) {id other : StepId}
    (isStep : id ∈ graph.ids) (path : graph.parentLinks.Reaches id other) : other ∈ graph.ids := by
  induction path with
  | refl => exact isStep
  | tail _ link _ => exact indexed.parent_mem_ids parentsExist link

/-- Among finitely many steps a walk without a cycle ends, and it can only end at a root. -/
theorem rooted_of_acyclic (parentsExist : graph.ParentsExist)
    (acyclic : ∀ id, ¬ graph.parentLinks.Behind id id) {id : StepId} (isStep : id ∈ graph.ids) :
    graph.Rooted id := by
  have follows := graph.parentLinks.walk_follows (fun _ => false) id
  have ends := follows.ends
  split at ends
  · rename_i last _
    rcases ends with ⟨lastMet, ended⟩
    have path : graph.parentLinks.Reaches id last :=
      (graph.parentLinks.mem_trail id last).mp (List.mem_of_getLast? lastMet)
    have top : graph.parent? last = none := (follows.nth_length lastMet).symm.trans ended
    exact .of_reaches path (.root (indexed.reaches_mem_ids parentsExist isStep path) top)
  · cases ends.2
  · rename_i node _
    rcases ends with ⟨again, member⟩
    rcases (follows.mem_iff node).mp member with ⟨n, before, first⟩
    exact absurd (graph.parentLinks.behind_of_nth first again before) (acyclic node)

theorem checkParent_ok_iff (id parent : StepId) : graph.checkParent id parent = .ok () ↔
    parent ∈ graph.ids ∧ ¬ graph.parentLinks.Reaches parent id := by
  rw [← wouldLoop_iff, ← indexed.contains_iff, checkParent]
  cases graph.contains parent with
  | false => simp
  | true => cases graph.wouldLoop id parent <;> simp

theorem checkPatch_ok_iff (id : StepId) (patch : Patch) : graph.checkPatch id patch = .ok () ↔
    ∀ parent, patch.parent = some (some parent) →
      parent ∈ graph.ids ∧ ¬ graph.parentLinks.Reaches parent id := by
  rw [checkPatch]
  cases patch.parent with
  | none => simp
  | some set =>
      cases set with
      | none => simp
      | some parent => simp [indexed.checkParent_ok_iff]

end Indexed

end StepFlow.Graph
