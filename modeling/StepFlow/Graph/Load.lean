import StepFlow.Graph.Basic
import StepFlow.Graph.Error

/-!
Bulk loading. Repeated ids are refused; everything else that is wrong with the data is repaired:
parents that are no steps are cleared, each cycle of parents loses the link of its first step, and
connections that are repeated or that miss an end are dropped.
-/
namespace StepFlow.Graph

def pushAll (graph : Graph) : List Step → Except GraphError Graph
  | [] => .ok graph
  | step :: rest =>
      if graph.contains step.id then .error (.duplicateId step.id)
      else (graph.push step).pushAll rest

def wouldLoop (graph : Graph) (id parent : StepId) : Bool := id ∈ graph.lineage parent

def clearParent (graph : Graph) (place : Nat) : Graph :=
  { graph with steps := graph.steps.modify place Step.asRoot }

def repairParent (graph : Graph) (place : Nat) : Graph :=
  match graph.steps[place]? with
  | none => graph
  | some step =>
      match step.parent with
      | none => graph
      | some parent =>
          if graph.contains parent && !graph.wouldLoop step.id parent then graph
          else graph.clearParent place

/-- Steps are repaired in order, each test seeing the repairs made before it: a cycle is cut at
its first step, and the steps after that one find no cycle any more. -/
def repairParents (graph : Graph) : Graph := (List.range graph.size).foldl repairParent graph

def soundConnections (graph : Graph) (connections : List Connection) : List Connection :=
  (connections.filter fun c => graph.contains c.source && graph.contains c.target).eraseDups

def ofParts (steps : List Step) (connections : List Connection) : Except GraphError Graph :=
  (pushAll {} steps).map fun loaded =>
    let graph := loaded.repairParents
    { graph with
      connections := graph.soundConnections connections
      counter := graph.size }

end StepFlow.Graph
