import Mathlib.Data.List.Forall2
import Mathlib.Logic.Embedding.Basic
import StepFlow.Graph.Load
import StepFlow.Proofs.Repeats
import StepFlow.Proofs.Walk

namespace StepFlow

/-- The same step under its new id. What is there for show only may differ: nickname, description,
assumptions, questions and images. -/
structure Step.Renamed (newId : StepId ↪ StepId) (step renamed : Step) : Prop where
  id : renamed.id = newId step.id
  name : renamed.name = step.name
  declaredRole : renamed.declaredRole = step.declaredRole
  parent : renamed.parent = step.parent.map newId

theorem Step.Renamed.asRoot {newId : StepId ↪ StepId} {step renamed : Step}
    (same : step.Renamed newId renamed) : step.asRoot.Renamed newId renamed.asRoot where
  id := same.id
  name := same.name
  declaredRole := same.declaredRole
  parent := rfl

def Connection.rename (newId : StepId ↪ StepId) (connection : Connection) : Connection :=
  { connection with source := newId connection.source, target := newId connection.target }

theorem Connection.rename_injective (newId : StepId ↪ StepId) :
    Function.Injective (rename newId) := by
  intro left right same
  rcases left with ⟨source, target, outcome⟩
  rcases right with ⟨source', target', outcome'⟩
  simpa [rename] using same

theorem forall₂_getElem? {α β : Type} {R : α → β → Prop} {xs : List α} {ys : List β}
    (related : List.Forall₂ R xs ys) (i : Nat) : Option.Rel R xs[i]? ys[i]? := by
  induction related generalizing i with
  | nil => exact .none
  | cons first _ ih =>
      cases i with
      | zero => exact .some first
      | succ i => exact ih i

theorem forall₂_modify {α : Type} {R : α → α → Prop} {change : α → α} {xs ys : List α}
    (keeps : ∀ {x y}, R x y → R (change x) (change y)) (related : List.Forall₂ R xs ys) (i : Nat) :
    List.Forall₂ R (xs.modify i change) (ys.modify i change) := by
  induction related generalizing i with
  | nil => simp
  | cons first rest ih =>
      cases i with
      | zero => exact .cons (keeps first) rest
      | succ i => exact .cons first (ih i)

theorem eq_map_of_forall₂ {α β : Type} {f : α → β} {xs : List α} {ys : List β}
    (related : List.Forall₂ (fun x y => f x = y) xs ys) : ys = xs.map f := by
  rw [← List.forall₂_map_left_iff, List.forall₂_eq_eq_eq] at related
  exact related.symm

namespace Graph

structure Renamed (newId : StepId ↪ StepId) (graph renamed : Graph) : Prop where
  steps : List.Forall₂ (Step.Renamed newId) graph.steps renamed.steps
  place?_eq (id : StepId) : renamed.place? (newId id) = graph.place? id
  connections : renamed.connections = graph.connections.map (.rename newId)

namespace Renamed

variable {newId : StepId ↪ StepId} {graph renamed : Graph} (same : graph.Renamed newId renamed)

include same

theorem size_eq : renamed.size = graph.size := same.steps.length_eq.symm

theorem ids_eq : renamed.steps.map (·.id) = (graph.steps.map (·.id)).map newId := by
  apply eq_map_of_forall₂
  rw [List.forall₂_map_left_iff, List.forall₂_map_right_iff]
  exact same.steps.imp fun _ _ sameStep => sameStep.id.symm

theorem contains_eq (id : StepId) : renamed.contains (newId id) = graph.contains id :=
  congrArg Option.isSome (same.place?_eq id)

theorem step? (id : StepId) :
    Option.Rel (Step.Renamed newId) (graph.step? id) (renamed.step? (newId id)) := by
  rw [Graph.step?, Graph.step?, same.place?_eq]
  cases graph.place? id with
  | none => exact .none
  | some place => exact forall₂_getElem? same.steps place

theorem step?_name (id : StepId) :
    (renamed.step? (newId id)).map (·.name) = (graph.step? id).map (·.name) := by
  match graph.step? id, renamed.step? (newId id), same.step? id with
  | none, none, .none => rfl
  | some _, some _, .some sameStep => exact congrArg some sameStep.name

theorem parent?_eq (id : StepId) :
    renamed.parent? (newId id) = (graph.parent? id).map newId := by
  rw [parent?, parent?]
  match graph.step? id, renamed.step? (newId id), same.step? id with
  | none, none, .none => rfl
  | some _, some _, .some sameStep => exact sameStep.parent

theorem lineage_eq (id : StepId) :
    renamed.lineage (newId id) = (graph.lineage id).map newId := by
  have walks : renamed.parentLinks.walk (fun _ => false) (newId id) =
      (graph.parentLinks.walk (fun _ => false) id).map newId :=
    Links.walk_map (fun _ => True) newId.injective (fun _ _ => trivial)
      (fun _ => same.parent?_eq _) (fun _ => rfl) trivial
  exact congrArg Walk.met walks

theorem wouldLoop_eq (id parent : StepId) :
    renamed.wouldLoop (newId id) (newId parent) = graph.wouldLoop id parent := by
  rw [wouldLoop, wouldLoop, same.lineage_eq]
  exact decide_eq_decide.mpr (List.mem_map_of_injective newId.injective)

theorem qualifiedName_eq (id : StepId) :
    renamed.qualifiedName (newId id) = graph.qualifiedName id := by
  have names : ((graph.lineage id).map newId).filterMap
      (fun id => (renamed.step? id).map (·.name)) =
      (graph.lineage id).filterMap fun id => (graph.step? id).map (·.name) := by
    rw [List.filterMap_map]
    exact congrArg (List.filterMap · _) (funext same.step?_name)
  rw [qualifiedName, qualifiedName, same.lineage_eq, List.map_reverse, List.map_reverse,
    List.map_filterMap, List.map_filterMap, names]

theorem outgoing_eq (id : StepId) :
    renamed.outgoing (newId id) = (graph.outgoing id).map (.rename newId) := by
  rw [outgoing, outgoing, same.connections, List.filter_map]
  simp [Function.comp_def, Connection.rename]

theorem successor?_eq (id : StepId) :
    renamed.successor? (newId id) = (graph.successor? id).map newId := by
  rw [successor?, successor?, same.connections, List.find?_map]
  simp [Function.comp_def, Connection.rename]

theorem push {step stepToo : Step} (sameStep : step.Renamed newId stepToo) :
    (graph.push step).Renamed newId (renamed.push stepToo) where
  steps := List.rel_append same.steps (.cons sameStep .nil)
  place?_eq := by
    intro id
    have sameEnd : newId id = stepToo.id ↔ id = step.id := by
      rw [sameStep.id, newId.apply_eq_iff_eq]
    have elsewhere := same.place?_eq id
    rw [place?, place?] at elsewhere
    simp only [place?, Graph.push, TextMap.get?_insert, StepId.text_inj, sameEnd, same.size_eq,
      elsewhere]
  connections := same.connections

theorem clearParent (place : Nat) :
    (graph.clearParent place).Renamed newId (renamed.clearParent place) where
  steps := forall₂_modify Step.Renamed.asRoot same.steps place
  place?_eq := same.place?_eq
  connections := same.connections

theorem repairParent (place : Nat) :
    (graph.repairParent place).Renamed newId (renamed.repairParent place) := by
  rw [Graph.repairParent, Graph.repairParent]
  match graph.steps[place]?, renamed.steps[place]?, forall₂_getElem? same.steps place with
  | none, none, .none => exact same
  | some step, some stepToo, .some sameStep =>
      dsimp only
      rw [sameStep.parent, sameStep.id]
      cases step.parent with
      | none => exact same
      | some parent =>
          dsimp only [Option.map_some]
          rw [same.contains_eq, same.wouldLoop_eq]
          split
          · exact same
          · exact same.clearParent place

theorem repairParents : graph.repairParents.Renamed newId renamed.repairParents := by
  rw [Graph.repairParents, Graph.repairParents, same.size_eq]
  induction List.range graph.size generalizing graph renamed with
  | nil => exact same
  | cons place rest ih => exact ih (same.repairParent place)

theorem soundConnections_eq (connections : List Connection) :
    renamed.soundConnections (connections.map (.rename newId)) =
      (graph.soundConnections connections).map (.rename newId) := by
  rw [soundConnections, soundConnections, List.filter_map,
    eraseDups_map (Connection.rename_injective newId)]
  simp [Function.comp_def, Connection.rename, same.contains_eq]

end Renamed

inductive LoadsAlike (newId : StepId ↪ StepId) :
    Except GraphError Graph → Except GraphError Graph → Prop
  | refused (id : StepId) :
      LoadsAlike newId (.error (.duplicateId id)) (.error (.duplicateId (newId id)))
  | loaded {graph renamed : Graph} (same : graph.Renamed newId renamed) :
      LoadsAlike newId (.ok graph) (.ok renamed)

variable {newId : StepId ↪ StepId}

theorem pushAll_renamed {graph renamed : Graph} (same : graph.Renamed newId renamed)
    {steps stepsToo : List Step} (sameSteps : List.Forall₂ (Step.Renamed newId) steps stepsToo) :
    LoadsAlike newId (graph.pushAll steps) (renamed.pushAll stepsToo) := by
  induction sameSteps generalizing graph renamed with
  | nil => exact .loaded same
  | @cons step stepToo _ _ sameStep _ ih =>
      rw [pushAll, pushAll, sameStep.id, same.contains_eq]
      split
      · exact .refused step.id
      · exact ih (same.push sameStep)

theorem ofParts_renamed {steps stepsToo : List Step}
    (sameSteps : List.Forall₂ (Step.Renamed newId) steps stepsToo)
    (connections : List Connection) :
    LoadsAlike newId (ofParts steps connections)
      (ofParts stepsToo (connections.map (.rename newId))) := by
  have nothing : Renamed newId {} {} := ⟨.nil, fun _ => rfl, rfl⟩
  rw [ofParts, ofParts]
  match pushAll {} steps, pushAll {} stepsToo, pushAll_renamed nothing sameSteps with
  | _, _, .refused id => exact .refused id
  | _, _, .loaded same =>
      have repaired := same.repairParents
      exact .loaded ⟨repaired.steps, repaired.place?_eq, repaired.soundConnections_eq connections⟩

end Graph

end StepFlow
