import StepFlow.Proofs.Graph.Run

namespace StepFlow.Graph

/-- The steps of the path lead down from the top, each a child of the one before it, and the last
one has the id. -/
inductive Descent (graph : Graph) (top : StepId) : List Step → StepId → Prop
  | child {step : Step} (member : step ∈ graph.children top) : Descent graph top [step] step.id
  | deeper {path : List Step} {id : StepId} {step : Step} (above : Descent graph top path id)
      (member : step ∈ graph.children id) : Descent graph top (path ++ [step]) step.id

def Descends (graph : Graph) (top id : StepId) : Prop := ∃ path, graph.Descent top path id

variable {graph : Graph} {top id : StepId}

theorem mem_children {step : Step} :
    step ∈ graph.children top ↔ step ∈ graph.steps ∧ step.parent = some top := by
  rw [children, List.mem_filter, decide_eq_true_iff]

theorem Descent.mem_ids {path : List Step} (descent : graph.Descent top path id) :
    id ∈ graph.ids := by
  cases descent with
  | child member => exact Graph.mem_ids.mpr ⟨_, (mem_children.mp member).1, rfl⟩
  | deeper _ member => exact Graph.mem_ids.mpr ⟨_, (mem_children.mp member).1, rfl⟩

namespace Indexed

variable (indexed : graph.Indexed)

include indexed

theorem parent?_of_child {step : Step} (member : step ∈ graph.children top) :
    graph.parent? step.id = some top := by
  rcases mem_children.mp member with ⟨isStep, above⟩
  exact indexed.parent?_eq_some_iff.mpr ⟨step, isStep, rfl, above⟩

theorem exists_child (link : graph.parent? id = some top) :
    ∃ step ∈ graph.children top, step.id = id := by
  rcases indexed.parent?_eq_some_iff.mp link with ⟨step, isStep, named, above⟩
  exact ⟨step, mem_children.mpr ⟨isStep, above⟩, named⟩

theorem behind_of_descent {path : List Step} (descent : graph.Descent top path id) :
    graph.parentLinks.Behind id top := by
  induction descent with
  | child member => exact .single (indexed.parent?_of_child member)
  | deeper _ member ih => exact .head (indexed.parent?_of_child member) ih

theorem descends_iff : graph.Descends top id ↔ graph.parentLinks.Behind id top := by
  constructor
  · intro below
    rcases below with ⟨path, descent⟩
    exact indexed.behind_of_descent descent
  · intro behind
    induction behind using Relation.TransGen.head_induction_on with
    | single link =>
        rcases indexed.exists_child link with ⟨step, member, rfl⟩
        exact ⟨[step], .child member⟩
    | head link _ ih =>
        rcases indexed.exists_child link with ⟨step, member, rfl⟩
        rcases ih with ⟨path, descent⟩
        exact ⟨path ++ [step], .deeper descent member⟩

theorem reaches_iff : graph.parentLinks.Reaches id top ↔ top = id ∨ graph.Descends top id := by
  rw [indexed.descends_iff]
  exact Relation.reflTransGen_iff_eq_or_transGen

theorem not_reaches (differs : id ≠ top) (apart : ¬ graph.Descends top id) :
    ¬ graph.parentLinks.Reaches id top := by
  intro path
  rcases indexed.reaches_iff.mp path with same | below
  · exact differs same.symm
  · exact apart below

end Indexed

theorem WellFormed.ne_of_descent (wellFormed : graph.WellFormed) {path : List Step}
    (descent : graph.Descent top path id) : id ≠ top := by
  intro same
  have cycle := wellFormed.indexed.behind_of_descent descent
  rw [← same] at cycle
  exact wellFormed.acyclic id cycle

def hall : Step := { id := ⟨"step-1"⟩, name := "Hall" }

def room : Step := { id := ⟨"step-2"⟩, name := "Room", parent := some hall.id }

def shelf : Step := { id := ⟨"step-3"⟩, name := "Shelf", parent := some room.id }

def house : Graph :=
  run {} [.add hall.toDetails, .add room.toDetails, .add shelf.toDetails,
    .connect ⟨hall.id, shelf.id, .success⟩ 0, .connect ⟨shelf.id, room.id, .failure⟩ 600]

theorem reachable_house : house.Reachable := ⟨{}, _, .empty, rfl⟩

theorem steps_house : house.steps = [hall, room, shelf] := by decide +kernel

theorem descent_house : house.Descent hall.id ([room] ++ [shelf]) shelf.id := by
  refine .deeper (.child ?_) ?_
  · rw [mem_children, steps_house]
    decide
  · rw [mem_children, steps_house]
    decide

end StepFlow.Graph
