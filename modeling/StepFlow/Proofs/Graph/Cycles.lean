import Mathlib.Data.Nat.Find
import StepFlow.Proofs.Graph.Ancestry

/-!
Cycles of parents in a list of steps, and the steps that have to lose their parent for the list to
become a forest. `repairedUpTo` has the first steps repaired and the others as they came;
`PartlyRepaired.behind_iff` says which cycles are left in it, in terms of the cycles there were at
first.
-/
namespace StepFlow

def ParentIn (steps : List Step) (id parent : StepId) : Prop :=
  ∃ step ∈ steps, step.id = id ∧ step.parent = some parent

/-- Following parents from either id comes to the other one. Of an id and itself this says that it
lies on a cycle. -/
def SameCycle (steps : List Step) (id other : StepId) : Prop :=
  Relation.TransGen (ParentIn steps) id other ∧ Relation.TransGen (ParentIn steps) other id

def FirstOnCycle (steps : List Step) (place : Nat) (id : StepId) : Prop :=
  ∀ earlier < place, ∀ other, steps[earlier]? = some other → ¬ SameCycle steps id other.id

inductive LosesParent (steps : List Step) (place : Nat) (step : Step) : Prop
  | missing {parent : StepId} (set : step.parent = some parent)
      (absent : parent ∉ steps.map (·.id))
  | cyclic (onCycle : SameCycle steps step.id step.id) (first : FirstOnCycle steps place step.id)

open Classical in
noncomputable def repairedUpTo (place : Nat) (steps : List Step) : List Step :=
  steps.mapIdx fun i step => if i < place ∧ LosesParent steps i step then step.asRoot else step

namespace SameCycle

variable {steps : List Step} {id other third : StepId}

theorem symm (same : SameCycle steps id other) : SameCycle steps other id := ⟨same.2, same.1⟩

theorem trans (left : SameCycle steps id other) (right : SameCycle steps other third) :
    SameCycle steps id third :=
  ⟨left.1.trans right.1, right.2.trans left.2⟩

theorem parentIn_unique (distinct : (steps.map (·.id)).Nodup) {parent parent' : StepId}
    (left : ParentIn steps id parent) (right : ParentIn steps id parent') : parent = parent' := by
  rcases left with ⟨step, member, named, above⟩
  rcases right with ⟨step', member', named', above'⟩
  obtain rfl : step = step' :=
    List.inj_on_of_nodup_map distinct member member' (named.trans named'.symm)
  exact Option.some.inj (above.symm.trans above')

theorem parent (distinct : (steps.map (·.id)).Nodup) (onCycle : SameCycle steps id id)
    {parent : StepId} (link : ParentIn steps id parent) : SameCycle steps id parent := by
  refine ⟨.single link, ?_⟩
  rcases Relation.TransGen.head'_iff.mp onCycle.1 with ⟨parent', link', back⟩
  obtain rfl := parentIn_unique distinct link link'
  exact .trans_right back onCycle.1

end SameCycle

theorem Step.asRoot_of_top {step : Step} (top : step.parent = none) : step.asRoot = step := by
  cases step with
  | mk details id =>
      cases details
      simp_all [asRoot]

theorem exists_place_of_transGen {steps : List Step} {id other : StepId}
    (path : Relation.TransGen (ParentIn steps) id other) :
    ∃ (place : Nat) (step : Step), steps[place]? = some step ∧ step.id = id := by
  rcases Relation.TransGen.head'_iff.mp path with ⟨_, ⟨step, member, named, _⟩, _⟩
  rcases List.mem_iff_getElem?.mp member with ⟨place, here⟩
  exact ⟨place, step, here, named⟩

theorem place_eq_of_id_eq {steps : List Step} (distinct : (steps.map (·.id)).Nodup)
    {i j : Nat} {left right : Step} (here : steps[i]? = some left) (there : steps[j]? = some right)
    (same : left.id = right.id) : i = j := by
  have inside : i < (steps.map (·.id)).length := by
    rw [List.length_map]
    exact (List.getElem?_eq_some_iff.mp here).1
  apply (List.getElem?_inj inside distinct).mp
  simp [here, there, same]

theorem exists_first_on_cycle {steps : List Step} {id : StepId} (onCycle : SameCycle steps id id) :
    ∃ (place : Nat) (step : Step), steps[place]? = some step ∧ SameCycle steps id step.id ∧
      FirstOnCycle steps place step.id := by
  classical
  let OnIt (place : Nat) : Prop :=
    ∃ step, steps[place]? = some step ∧ SameCycle steps id step.id
  have onSome : ∃ place, OnIt place := by
    rcases exists_place_of_transGen onCycle.1 with ⟨place, step, here, named⟩
    exact ⟨place, step, here, named.symm ▸ onCycle⟩
  rcases Nat.find_spec onSome with ⟨step, here, same⟩
  refine ⟨Nat.find onSome, step, here, same, ?_⟩
  intro earlier before other there again
  exact Nat.find_min onSome before ⟨other, there, same.trans again⟩

/-- Each cycle loses the link of its first step and no other. -/
theorem existsUnique_losesParent {steps : List Step} (distinct : (steps.map (·.id)).Nodup)
    {id : StepId} (onCycle : SameCycle steps id id) :
    ∃! place : Nat, ∃ step, steps[place]? = some step ∧ SameCycle steps id step.id ∧
      LosesParent steps place step := by
  rcases exists_first_on_cycle onCycle with ⟨place, step, here, same, first⟩
  refine ⟨place, ⟨step, here, same, .cyclic (same.symm.trans same) first⟩, ?_⟩
  intro place' given
  rcases given with ⟨step', here', same', loses⟩
  have firstToo : FirstOnCycle steps place' step'.id := by
    cases loses with
    | cyclic _ first => exact first
    | @missing parent set absent =>
        have link : ParentIn steps step'.id parent :=
          ⟨step', List.mem_of_getElem? here', rfl, set⟩
        have back := (SameCycle.parent distinct (same'.symm.trans same') link).2
        rcases exists_place_of_transGen back with ⟨place, above, there, named⟩
        exact absurd (List.mem_map.mpr ⟨above, List.mem_of_getElem? there, named⟩) absent
  rcases Nat.lt_trichotomy place' place with before | equal | behind
  · exact absurd (same.symm.trans same') (first place' before step' here')
  · exact equal
  · exact absurd (same'.symm.trans same) (firstToo place behind step here)

section repairedUpTo

variable {steps : List Step} {place : Nat}

open Classical in
theorem getElem?_repairedUpTo (place : Nat) (steps : List Step) (i : Nat) :
    (repairedUpTo place steps)[i]? = (steps[i]?).map fun step =>
      if i < place ∧ LosesParent steps i step then step.asRoot else step :=
  List.getElem?_mapIdx

theorem map_id_repairedUpTo (place : Nat) (steps : List Step) :
    (repairedUpTo place steps).map (·.id) = steps.map (·.id) := by
  apply List.ext_getElem?
  intro i
  rw [List.getElem?_map, List.getElem?_map, getElem?_repairedUpTo, Option.map_map]
  congr 1
  funext step
  dsimp only [Function.comp]
  split <;> rfl

theorem repairedUpTo_zero (steps : List Step) : repairedUpTo 0 steps = steps := by
  apply List.ext_getElem?
  intro i
  simp [getElem?_repairedUpTo]

theorem repairedUpTo_succ {step : Step} (here : steps[place]? = some step) :
    (LosesParent steps place step →
      repairedUpTo (place + 1) steps = (repairedUpTo place steps).modify place Step.asRoot) ∧
    (¬ LosesParent steps place step ∨ step.parent = none →
      repairedUpTo (place + 1) steps = repairedUpTo place steps) := by
  classical
  have elsewhere (i : Nat) (other : i ≠ place) :
      (repairedUpTo (place + 1) steps)[i]? = (repairedUpTo place steps)[i]? := by
    have bounds : i < place + 1 ↔ i < place := by omega
    rw [getElem?_repairedUpTo, getElem?_repairedUpTo]
    simp only [bounds]
  have before : (repairedUpTo place steps)[place]? = some step := by
    simp [getElem?_repairedUpTo, here]
  constructor
  · intro loses
    apply List.ext_getElem?
    intro i
    by_cases same : i = place
    · subst same
      rw [List.getElem?_modify_eq, before]
      simp [getElem?_repairedUpTo, here, loses]
    · rw [List.getElem?_modify_ne _ _ (Ne.symm same), elsewhere i same]
  · intro keeps
    apply List.ext_getElem?
    intro i
    by_cases same : i = place
    · subst same
      rw [before, getElem?_repairedUpTo, here]
      rcases keeps with kept | top
      · simp [kept]
      · simp [Step.asRoot_of_top top]
    · exact elsewhere i same

end repairedUpTo

namespace Graph

/-- A graph on the way through the repair, with the steps in front of the place done. -/
structure PartlyRepaired (graph : Graph) (steps : List Step) (place : Nat) : Prop where
  indexed : graph.Indexed
  stepsSoFar : graph.steps = repairedUpTo place steps

namespace PartlyRepaired

variable {graph : Graph} {steps : List Step} {place : Nat}
  (partly : graph.PartlyRepaired steps place)

include partly

theorem ids_eq : graph.ids = steps.map (·.id) := by
  rw [ids, partly.stepsSoFar, map_id_repairedUpTo]

theorem distinct : (steps.map (·.id)).Nodup := partly.ids_eq ▸ partly.indexed.ids_nodup

theorem parent?_iff {id parent : StepId} :
    graph.parent? id = some parent ↔
      ∃ (i : Nat) (step : Step), steps[i]? = some step ∧ step.id = id ∧
        step.parent = some parent ∧ ¬ (i < place ∧ LosesParent steps i step) := by
  classical
  rw [partly.indexed.parent?_eq_some_iff, partly.stepsSoFar]
  constructor
  · intro given
    rcases given with ⟨repaired, member, named, above⟩
    rcases List.mem_iff_getElem?.mp member with ⟨i, there⟩
    rw [getElem?_repairedUpTo] at there
    rcases Option.map_eq_some_iff.mp there with ⟨step, here, outcome⟩
    by_cases cleared : i < place ∧ LosesParent steps i step
    · rw [if_pos cleared] at outcome
      subst outcome
      cases above
    · rw [if_neg cleared] at outcome
      subst outcome
      exact ⟨i, step, here, named, above, cleared⟩
  · intro given
    rcases given with ⟨i, step, here, named, above, kept⟩
    refine ⟨step, @List.mem_of_getElem? _ _ i _ ?_, named, above⟩
    rw [getElem?_repairedUpTo, here, Option.map_some, if_neg kept]

theorem parentIn_of_parent? {id parent : StepId} (link : graph.parent? id = some parent) :
    ParentIn steps id parent := by
  rcases partly.parent?_iff.mp link with ⟨i, step, here, named, above, _⟩
  exact ⟨step, List.mem_of_getElem? here, named, above⟩

/-- From a step on a cycle that is left one cannot leave the cycle, not even by the links that
have been cleared since. -/
theorem behind_of_transGen {id other : StepId} (cycle : graph.parentLinks.Behind id id)
    (path : Relation.TransGen (ParentIn steps) id other) : graph.parentLinks.Behind other id := by
  have onward {middle next : StepId} (back : graph.parentLinks.Behind middle id)
      (link : ParentIn steps middle next) : graph.parentLinks.Behind next id := by
    rcases Relation.TransGen.head'_iff.mp back with ⟨next', kept, rest⟩
    obtain rfl := SameCycle.parentIn_unique partly.distinct link (partly.parentIn_of_parent? kept)
    exact .trans_right rest cycle
  induction path with
  | single link => exact onward cycle link
  | tail _ link ih => exact onward ih link

theorem behind_iff (id : StepId) :
    graph.parentLinks.Behind id id ↔ SameCycle steps id id ∧ FirstOnCycle steps place id := by
  constructor
  · intro cycle
    have path : Relation.TransGen (ParentIn steps) id id :=
      Relation.TransGen.mono (fun _ _ link => partly.parentIn_of_parent? link) _ _ cycle
    refine ⟨⟨path, path⟩, ?_⟩
    intro earlier before other there same
    -- the first step of the cycle stands in front as well, so its link has been cleared
    rcases exists_first_on_cycle ⟨path, path⟩ with ⟨first, step, here, onIt, isFirst⟩
    have back := partly.behind_of_transGen cycle onIt.1
    rcases Relation.TransGen.head'_iff.mp back with ⟨parent, link, _⟩
    rcases partly.parent?_iff.mp link with ⟨i, step', here', named, _, kept⟩
    have samePlace : i = first := place_eq_of_id_eq partly.distinct here' here named
    subst samePlace
    obtain rfl : step' = step := Option.some.inj (here'.symm.trans here)
    have notBehind : ¬ earlier < i := fun ahead => isFirst earlier ahead other there
      (onIt.symm.trans same)
    exact kept ⟨by omega, .cyclic (onIt.symm.trans onIt) isFirst⟩
  · intro given
    rcases given with ⟨onCycle, first⟩
    -- every link of the cycle is still there
    have kept {middle next : StepId} (same : SameCycle steps id middle)
        (link : ParentIn steps middle next) : graph.parent? middle = some next := by
      rcases link with ⟨step, member, named, above⟩
      rcases List.mem_iff_getElem?.mp member with ⟨i, here⟩
      refine partly.parent?_iff.mpr ⟨i, step, here, named, above, ?_⟩
      intro given
      rcases given with ⟨before, -⟩
      exact first i before step here (named ▸ same)
    have climb {other : StepId} (path : Relation.TransGen (ParentIn steps) id other) :
        SameCycle steps id other ∧ graph.parentLinks.Behind id other := by
      induction path with
      | single link => exact ⟨.parent partly.distinct onCycle link, .single (kept onCycle link)⟩
      | tail _ link ih =>
          rcases ih with ⟨same, behind⟩
          refine ⟨?_, behind.tail (kept same link)⟩
          exact same.trans (.parent partly.distinct (same.symm.trans same) link)
    exact (climb onCycle.1).2

end PartlyRepaired

end Graph

end StepFlow
