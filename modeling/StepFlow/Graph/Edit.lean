import StepFlow.Graph.Load

namespace StepFlow

def StepId.numbered (number : Nat) : StepId := ⟨s!"step-{number}"⟩

namespace Graph

/-- The least number above the counter whose id is free. One candidate more than there are steps
is enough, since the ids of different numbers differ. -/
def freshNumber (graph : Graph) : Nat :=
  ((List.range' (graph.counter + 1) (graph.size + 1)).find?
    fun number => !graph.contains (.numbered number)).getD (graph.counter + 1)

def addStep (graph : Graph) (details : Details) : StepId × Graph :=
  let number := graph.freshNumber
  let id := StepId.numbered number
  let parent := details.parent.filter graph.contains
  (id, { graph.push { details with id, parent } with counter := number })

def checkParent (graph : Graph) (id parent : StepId) : Except GraphError Unit :=
  if !graph.contains parent then .error (.unknownParent id parent)
  else if graph.wouldLoop id parent then .error (.parentCycle id parent)
  else .ok ()

def checkPatch (graph : Graph) (id : StepId) (patch : Patch) : Except GraphError Unit :=
  match patch.parent with
  | some (some parent) => graph.checkParent id parent
  | some none | none => .ok ()

def patchAt (graph : Graph) (place : Nat) (patch : Patch) : Graph :=
  { graph with steps := graph.steps.modify place patch.apply }

def updateStep (graph : Graph) (id : StepId) (patch : Patch) : Except GraphError Graph :=
  match graph.place? id with
  | none => .error (.unknownStep id)
  | some place => (graph.checkPatch id patch).map fun () => graph.patchAt place patch

def reindex (index : TextMap Nat) (steps : List Step) (place : Nat) : TextMap Nat :=
  ((steps.drop place).zipIdx place).foldl (fun index (step, i) => index.insert step.id.text i) index

def removeAt (graph : Graph) (id : StepId) (place : Nat) : Graph :=
  let steps := graph.steps.eraseIdx place
  { graph with
    steps := steps.map (·.orphan id)
    index := reindex (graph.index.erase id.text) steps place
    connections := graph.connections.filter fun connection => !connection.touches id }

def removeStep? (graph : Graph) (id : StepId) : Option Graph :=
  (graph.place? id).map (graph.removeAt id)

def accepts (graph : Graph) (connection : Connection) : Bool :=
  graph.contains connection.source && graph.contains connection.target &&
    connection ∉ graph.connections

/-- The flag says whether the connection was added. Every request that is no repeat is remembered,
one that is then turned down as well. -/
def connect (graph : Graph) (connection : Connection) (now : Int) : Bool × Graph :=
  match graph.debounce.admit? connection now with
  | none => (false, graph)
  | some debounce =>
      if graph.accepts connection then
        (true, { graph with connections := graph.connections ++ [connection], debounce })
      else (false, { graph with debounce })

def disconnect? (graph : Graph) (connection : Connection) : Option Graph :=
  if connection ∈ graph.connections then
    some { graph with connections := graph.connections.erase connection }
  else none

inductive Edit
  | add (details : Details)
  | update (id : StepId) (patch : Patch)
  | remove (id : StepId)
  | connect (connection : Connection) (now : Int)
  | disconnect (connection : Connection)
  deriving DecidableEq, Repr

inductive Reply
  | added (id : StepId)
  | updated
  | refused (error : GraphError)
  | changed (done : Bool)
  deriving DecidableEq, Repr

def apply (graph : Graph) : Edit → Reply × Graph
  | .add details => let (id, grown) := graph.addStep details; (.added id, grown)
  | .update id patch =>
      match graph.updateStep id patch with
      | .ok patched => (.updated, patched)
      | .error error => (.refused error, graph)
  | .remove id => (.changed (graph.contains id), (graph.removeStep? id).getD graph)
  | .connect connection now =>
      let (done, joined) := graph.connect connection now; (.changed done, joined)
  | .disconnect connection =>
      (.changed (connection ∈ graph.connections), (graph.disconnect? connection).getD graph)

end Graph

end StepFlow
