import StepFlow.Proofs.Graph.Index
import StepFlow.Roles

namespace StepFlow.Roles

theorem get?_set (roles : Roles) (id : StepId) (role : Role) (other : StepId) :
    (roles.set id role).get? other = if other = id then some role else roles.get? other := by
  simp only [get?, set, TextMap.get?_insert, StepId.text_inj]

theorem get?_unset (roles : Roles) (id other : StepId) :
    (roles.unset id).get? other = if other = id then none else roles.get? other := by
  simp only [get?, unset, TextMap.get?_erase, StepId.text_inj]

theorem get?_restrict (roles : Roles) (graph : Graph) (id : StepId) :
    (roles.restrict graph).get? id = if graph.contains id then roles.get? id else none :=
  TextMap.get?_filterKeys roles _ id.text

def filled (keywords : Keywords) (step : Step) (entry : Option Role) : Role :=
  step.declaredRole.getD (entry.getD (keywords.roleOfName step.name))

theorem filled_eq_roleOfStep_iff (keywords : Keywords) (step : Step) (entry : Option Role) :
    filled keywords step entry = keywords.roleOfStep step ↔ step.declaredRole.isSome ∨
      ∀ role, entry = some role → role = keywords.roleOfName step.name := by
  cases declared : step.declaredRole with
  | some role => simp [filled, Keywords.roleOfStep, declared]
  | none => cases entry <;> simp [filled, Keywords.roleOfStep, declared]

theorem get?_fillStep (keywords : Keywords) (roles : Roles) (step : Step) (id : StepId) :
    (fillStep keywords roles step).get? id =
      if id = step.id then some (filled keywords step (roles.get? id)) else roles.get? id := by
  by_cases same : id = step.id
  · subst same
    cases declared : step.declaredRole with
    | some role => simp [fillStep, filled, declared, get?_set]
    | none =>
        cases entry : roles.get? step.id with
        | some role => simp [fillStep, filled, declared, entry]
        | none => simp [fillStep, filled, declared, entry, get?_set]
  · cases declared : step.declaredRole with
    | some role => simp [fillStep, declared, get?_set, same]
    | none =>
        cases entry : roles.get? step.id with
        | some role => simp [fillStep, declared, entry, same]
        | none => simp [fillStep, declared, entry, get?_set, same]

section Fold

/-! Passes over the steps of a graph that change the entry of one step after the other. -/

variable {change : Roles → Step → Roles} (entry : Step → Option Role → Role)
  (changes : ∀ roles step id, (change roles step).get? id =
    if id = step.id then some (entry step (roles.get? id)) else roles.get? id)

include changes

theorem get?_foldl_of_absent (roles : Roles) {steps : List Step} {id : StepId}
    (absent : id ∉ steps.map (·.id)) : (steps.foldl change roles).get? id = roles.get? id := by
  induction steps generalizing roles with
  | nil => rfl
  | cons first rest ih =>
      rw [List.map_cons, List.mem_cons, not_or] at absent
      rw [List.foldl_cons, ih _ absent.2, changes, if_neg absent.1]

theorem get?_foldl_of_mem (roles : Roles) {steps : List Step}
    (distinct : (steps.map (·.id)).Nodup) {step : Step} (member : step ∈ steps) :
    (steps.foldl change roles).get? step.id = some (entry step (roles.get? step.id)) := by
  induction steps generalizing roles with
  | nil => cases member
  | cons first rest ih =>
      rcases List.nodup_cons.mp distinct with ⟨notLater, distinctRest⟩
      rw [List.foldl_cons]
      rcases List.mem_cons.mp member with same | later
      · rw [same, get?_foldl_of_absent entry changes _ notLater, changes, if_pos rfl]
      · have differs : step.id ≠ first.id :=
          ne_of_mem_of_not_mem (List.mem_map_of_mem later) notLater
        rw [ih _ distinctRest later, changes, if_neg differs]

end Fold

theorem get?_classify_of_absent (keywords : Keywords) {graph : Graph} {id : StepId}
    (absent : id ∉ graph.ids) : (classify keywords graph).get? id = none :=
  get?_foldl_of_absent (fun step _ => keywords.roleOfStep step)
    (fun roles step => roles.get?_set step.id (keywords.roleOfStep step)) ∅ absent

theorem get?_classify_of_mem (keywords : Keywords) {graph : Graph} (indexed : graph.Indexed)
    {step : Step} (member : step ∈ graph.steps) :
    (classify keywords graph).get? step.id = some (keywords.roleOfStep step) :=
  get?_foldl_of_mem (fun step _ => keywords.roleOfStep step)
    (fun roles step => roles.get?_set step.id (keywords.roleOfStep step)) ∅ indexed.ids_nodup member

theorem mem_ids_of_get?_classify {keywords : Keywords} {graph : Graph} {id : StepId} {role : Role}
    (entry : (classify keywords graph).get? id = some role) : id ∈ graph.ids := by
  by_contra absent
  rw [get?_classify_of_absent keywords absent] at entry
  cases entry

theorem get?_fill_of_absent (keywords : Keywords) (roles : Roles) {graph : Graph} {id : StepId}
    (absent : id ∉ graph.ids) : (roles.fill keywords graph).get? id = roles.get? id :=
  get?_foldl_of_absent (filled keywords) (get?_fillStep keywords) roles absent

theorem get?_fill_of_mem (keywords : Keywords) (roles : Roles) {graph : Graph}
    (indexed : graph.Indexed) {step : Step} (member : step ∈ graph.steps) :
    (roles.fill keywords graph).get? step.id =
      some (filled keywords step (roles.get? step.id)) :=
  get?_foldl_of_mem (filled keywords) (get?_fillStep keywords) roles indexed.ids_nodup member

theorem mem_ids_of_get?_fill_restrict {keywords : Keywords} {roles : Roles} {graph : Graph}
    (indexed : graph.Indexed) {id : StepId} {role : Role}
    (entry : ((roles.restrict graph).fill keywords graph).get? id = some role) :
    id ∈ graph.ids := by
  by_contra absent
  have notContained : graph.contains id ≠ true := mt (indexed.contains_iff id).mp absent
  rw [get?_fill_of_absent keywords _ absent, get?_restrict, if_neg notContained] at entry
  cases entry

theorem get?_fill_restrict {keywords : Keywords} {roles : Roles} {graph : Graph}
    (indexed : graph.Indexed) {step : Step} (member : step ∈ graph.steps) :
    ((roles.restrict graph).fill keywords graph).get? step.id =
      some (filled keywords step (roles.get? step.id)) := by
  have contained : graph.contains step.id = true :=
    (indexed.contains_iff step.id).mpr (List.mem_map_of_mem member)
  rw [get?_fill_of_mem keywords _ indexed member, get?_restrict, if_pos contained]

theorem ext {left right : Roles} (agree : ∀ id, left.get? id = right.get? id) : left = right :=
  TextMap.ext_get? fun text => agree ⟨text⟩

structure Settled (roles : Roles) (graph : Graph) : Prop where
  onlySteps : ∀ id role, roles.get? id = some role → id ∈ graph.ids
  everyStep : ∀ step ∈ graph.steps, ∃ role, roles.get? step.id = some role ∧
    step.declaredRole.getD role = role

namespace Settled

variable {roles : Roles} {graph : Graph} (settled : roles.Settled graph)
  (indexed : graph.Indexed)

include settled indexed

theorem fill_eq (keywords : Keywords) : roles.fill keywords graph = roles := by
  apply ext
  intro id
  by_cases isStep : id ∈ graph.ids
  · obtain ⟨step, member, rfl⟩ := Graph.mem_ids.mp isStep
    obtain ⟨role, entry, itsOwn⟩ := settled.everyStep step member
    rw [get?_fill_of_mem keywords roles indexed member, entry, filled, Option.getD_some, itsOwn]
  · exact get?_fill_of_absent keywords roles isStep

theorem restrict_eq : roles.restrict graph = roles := by
  apply ext
  intro id
  rw [get?_restrict]
  cases entry : roles.get? id with
  | none => exact ite_self none
  | some role => exact if_pos ((indexed.contains_iff id).mpr (settled.onlySteps id role entry))

end Settled

theorem settled_fill_restrict (keywords : Keywords) (roles : Roles) {graph : Graph}
    (indexed : graph.Indexed) : ((roles.restrict graph).fill keywords graph).Settled graph where
  onlySteps _ _ := mem_ids_of_get?_fill_restrict indexed
  everyStep step member := by
    refine ⟨_, get?_fill_restrict indexed member, ?_⟩
    rw [filled]
    cases step.declaredRole <;> rfl

theorem settled_classify (keywords : Keywords) {graph : Graph} (indexed : graph.Indexed) :
    (classify keywords graph).Settled graph where
  onlySteps _ _ := mem_ids_of_get?_classify
  everyStep step member := by
    refine ⟨_, get?_classify_of_mem keywords indexed member, ?_⟩
    rw [Keywords.roleOfStep]
    cases step.declaredRole <;> rfl

end StepFlow.Roles
