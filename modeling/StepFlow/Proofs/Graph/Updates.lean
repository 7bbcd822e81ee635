import Mathlib.Data.List.Forall2
import StepFlow.Proofs.Graph.Descent
import StepFlow.Proofs.Graph.Run

namespace StepFlow

def TakesOver {α : Type} (set : Option α) (before after : α) : Prop :=
  (∀ value, set = some value → after = value) ∧ (set = none → after = before)

theorem takesOver_getD {α : Type} (set : Option α) (before : α) :
    TakesOver set before (set.getD before) := by
  constructor
  · intro value given
    rw [given, Option.getD_some]
  · intro missing
    rw [missing, Option.getD_none]

structure Patch.Merged (patch : Patch) (before after : Step) : Prop where
  id : after.id = before.id
  name : TakesOver patch.name before.name after.name
  nickname : TakesOver patch.nickname before.nickname after.nickname
  description : TakesOver patch.description before.description after.description
  declaredRole : TakesOver patch.declaredRole before.declaredRole after.declaredRole
  parent : TakesOver patch.parent before.parent after.parent
  assumptions : TakesOver patch.assumptions before.assumptions after.assumptions
  questions : TakesOver patch.questions before.questions after.questions
  images : TakesOver patch.images before.images after.images

theorem Patch.merged_apply (patch : Patch) (step : Step) :
    patch.Merged step (patch.apply step) where
  id := rfl
  name := takesOver_getD _ _
  nickname := takesOver_getD _ _
  description := takesOver_getD _ _
  declaredRole := takesOver_getD _ _
  parent := takesOver_getD _ _
  assumptions := takesOver_getD _ _
  questions := takesOver_getD _ _
  images := takesOver_getD _ _

namespace Graph

/-- The reasons for refusing an update, each under the condition that none before it holds. -/
inductive Refusal (graph : Graph) (id : StepId) (patch : Patch) : GraphError → Prop
  | noStep (absent : id ∉ graph.ids) : Refusal graph id patch (.unknownStep id)
  | noParent {parent : StepId} (isStep : id ∈ graph.ids)
      (set : patch.parent = some (some parent)) (absent : parent ∉ graph.ids) :
      Refusal graph id patch (.unknownParent id parent)
  | loop {parent : StepId} (isStep : id ∈ graph.ids) (set : patch.parent = some (some parent))
      (known : parent ∈ graph.ids) (below : parent = id ∨ graph.Descends id parent) :
      Refusal graph id patch (.parentCycle id parent)

structure PatchedFrom (graph : Graph) (id : StepId) (patch : Patch) (after : Graph) : Prop where
  steps : List.Forall₂ (fun before after =>
    if before.id = id then patch.Merged before after else after = before) graph.steps after.steps
  own : ∃ old new, graph.step? id = some old ∧ after.step? id = some new ∧ patch.Merged old new
  others : ∀ other, other ≠ id → after.step? other = graph.step? other
  connections : after.connections = graph.connections
  counter : after.counter = graph.counter
  debounce : after.debounce = graph.debounce

variable {graph : Graph} {id : StepId} {patch : Patch}

theorem Refusal.unique {error other : GraphError} (refusal : graph.Refusal id patch error)
    (refusalToo : graph.Refusal id patch other) : error = other := by
  cases refusal with
  | noStep absent =>
      cases refusalToo with
      | noStep => rfl
      | noParent isStep | loop isStep => exact absurd isStep absent
  | noParent isStep set absent =>
      cases refusalToo with
      | noStep noStep => exact absurd isStep noStep
      | noParent _ setToo =>
          cases set.symm.trans setToo
          rfl
      | loop _ setToo known =>
          cases set.symm.trans setToo
          exact absurd known absent
  | loop isStep set known =>
      cases refusalToo with
      | noStep noStep => exact absurd isStep noStep
      | noParent _ setToo absent =>
          cases set.symm.trans setToo
          exact absurd known absent
      | loop _ setToo =>
          cases set.symm.trans setToo
          rfl

namespace Indexed

variable (indexed : graph.Indexed)

include indexed

theorem wouldLoop_iff_descends (parent : StepId) :
    graph.wouldLoop id parent = true ↔ parent = id ∨ graph.Descends id parent := by
  rw [wouldLoop_iff, indexed.reaches_iff, eq_comm]

theorem refusal_of_checkParent {parent : StepId} {error : GraphError} (isStep : id ∈ graph.ids)
    (set : patch.parent = some (some parent))
    (failed : graph.checkParent id parent = .error error) : graph.Refusal id patch error := by
  rw [checkParent] at failed
  cases known : graph.contains parent with
  | false =>
      have absent : parent ∉ graph.ids := by
        rw [← indexed.contains_iff, known]
        simp
      rw [known] at failed
      cases failed
      exact .noParent isStep set absent
  | true =>
      rw [known] at failed
      cases loops : graph.wouldLoop id parent with
      | false =>
          rw [loops] at failed
          cases failed
      | true =>
          rw [loops] at failed
          cases failed
          exact .loop isStep set ((indexed.contains_iff parent).mp known)
            ((indexed.wouldLoop_iff_descends parent).mp loops)

theorem not_refusal_of_checkPatch {error : GraphError} (isStep : id ∈ graph.ids)
    (passed : graph.checkPatch id patch = .ok ()) : ¬ graph.Refusal id patch error := by
  have allowed := (indexed.checkPatch_ok_iff id patch).mp passed
  intro refusal
  cases refusal with
  | noStep absent => exact absent isStep
  | noParent _ set absent => exact absent (allowed _ set).1
  | loop _ set _ below =>
      refine (allowed _ set).2 (indexed.reaches_iff.mpr ?_)
      exact below.imp_left Eq.symm

theorem updateStep_cases (id : StepId) (patch : Patch) :
    (∃ error, graph.updateStep id patch = .error error ∧ graph.Refusal id patch error) ∨
      ∃ place, graph.place? id = some place ∧
        graph.updateStep id patch = .ok (graph.patchAt place patch) ∧
        ∀ error, ¬ graph.Refusal id patch error := by
  rw [updateStep]
  cases here : graph.place? id with
  | none =>
      have absent := (indexed.place?_eq_none_iff id).mp here
      exact .inl ⟨.unknownStep id, rfl, .noStep absent⟩
  | some place =>
      have isStep := indexed.mem_ids_of_place? here
      dsimp only
      cases checked : graph.checkPatch id patch with
      | ok _ =>
          exact .inr ⟨place, rfl, rfl, fun _ => indexed.not_refusal_of_checkPatch isStep checked⟩
      | error error =>
          refine .inl ⟨error, rfl, ?_⟩
          rw [checkPatch] at checked
          split at checked
          · rename_i parent set
            exact indexed.refusal_of_checkParent isStep set checked
          · cases checked
          · cases checked

/-- No other step has the id, so the one at its place is the one that is patched. -/
theorem steps_patchAt {place : Nat} (here : graph.place? id = some place) (patch : Patch) :
    (graph.patchAt place patch).steps =
      graph.steps.map fun step => if step.id = id then patch.apply step else step := by
  apply List.ext_getElem?
  intro i
  rw [List.getElem?_map, Graph.patchAt]
  cases there : graph.steps[i]? with
  | none => simp [List.getElem?_eq_none_iff.mp there]
  | some step =>
      have named : graph.ids[i]? = some step.id := by rw [getElem?_ids, there, Option.map_some]
      have atPlace : step.id = id ↔ place = i := by
        constructor
        · intro same
          have found := (indexed step.id i).mpr named
          rw [same, here] at found
          exact Option.some.inj found
        · intro same
          rw [same] at here
          exact Option.some.inj (named.symm.trans ((indexed id i).mp here))
      by_cases same : place = i
      · simp [same, there, atPlace]
      · simp [same, there, atPlace, List.getElem?_modify_ne]

theorem patchedFrom_patchAt {place : Nat} (here : graph.place? id = some place) (patch : Patch) :
    graph.PatchedFrom id patch (graph.patchAt place patch) where
  steps := by
    rw [indexed.steps_patchAt here, List.forall₂_map_right_iff]
    refine List.forall₂_same.mpr fun step _ => ?_
    by_cases same : step.id = id
    · rw [if_pos same, if_pos same]
      exact patch.merged_apply step
    · rw [if_neg same, if_neg same]
  own := by
    rcases mem_ids.mp (indexed.mem_ids_of_place? here) with ⟨step, member, named⟩
    have found := indexed.step?_eq_some_iff.mpr ⟨member, named⟩
    refine ⟨step, patch.apply step, found, ?_, patch.merged_apply step⟩
    rw [indexed.step?_patchAt here, if_pos rfl, found, Option.map_some]
  others := by
    intro other differs
    rw [indexed.step?_patchAt here, if_neg differs]
  connections := rfl
  counter := rfl
  debounce := rfl

end Indexed

/-- An update is refused exactly for the reasons there are, and then nothing changes. Without a
reason it is done, and then nothing changes but the fields of the patch. -/
theorem update_outcome (reachable : graph.Reachable) (id : StepId) (patch : Patch) :
    (∀ error, graph.apply (.update id patch) = (.refused error, graph) ↔
      graph.Refusal id patch error) ∧
    ((∃ after, graph.apply (.update id patch) = (.updated, after) ∧
        graph.PatchedFrom id patch after) ↔ ∀ error, ¬ graph.Refusal id patch error) := by
  have indexed := reachable.wellFormed.indexed
  rw [apply]
  rcases indexed.updateStep_cases id patch with ⟨error, failed, refusal⟩ | ⟨place, here, done, free⟩
  · rw [failed]
    refine ⟨fun other => ⟨?_, ?_⟩, ?_, ?_⟩
    · intro given
      cases given
      exact refusal
    · intro refusalToo
      rw [refusal.unique refusalToo]
    · intro given
      rcases given with ⟨_, impossible, _⟩
      cases impossible
    · intro free
      exact absurd refusal (free error)
  · rw [done]
    refine ⟨fun other => ⟨?_, ?_⟩, ?_, ?_⟩
    · intro impossible
      cases impossible
    · intro refusal
      exact absurd refusal (free other)
    · intro _
      exact free
    · intro _
      exact ⟨_, rfl, indexed.patchedFrom_patchAt here patch⟩

/-- The hall cannot be put on the shelf, which is two levels below it. The room can be taken out of
the hall, and a patch may clear a field that is empty already. -/
theorem update_outcome_house : house.Reachable ∧
    house.apply (.update hall.id { parent := some (some shelf.id) }) =
      (.refused (.parentCycle hall.id shelf.id), house) ∧
    ∃ after, house.apply (.update room.id { parent := some none, nickname := some none }) =
        (.updated, after) ∧
      house.PatchedFrom room.id { parent := some none, nickname := some none } after := by
  have loop : house.Refusal hall.id { parent := some (some shelf.id) }
      (.parentCycle hall.id shelf.id) :=
    .loop (by decide +kernel) rfl (by decide +kernel) (.inr ⟨_, descent_house⟩)
  have free : ∀ error,
      ¬ house.Refusal room.id { parent := some none, nickname := some none } error := by
    intro error refusal
    cases refusal with
    | noStep absent => exact absent (by decide +kernel)
    | noParent _ set => cases set
    | loop _ set => cases set
  exact ⟨reachable_house, ((update_outcome reachable_house hall.id _).1 _).mpr loop,
    (update_outcome reachable_house room.id _).2.mpr free⟩

end Graph

end StepFlow
