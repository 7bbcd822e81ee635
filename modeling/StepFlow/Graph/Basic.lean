import StepFlow.Connection
import StepFlow.Graph.Debounce
import StepFlow.Links
import StepFlow.TextMap

/-!
The graph of steps and connections. Both lists keep the order in which their members came in, and
that order is the order of everything derived from the graph. Steps are looked up through an index
from their ids to their places.
-/
namespace StepFlow

/-- `index` is keyed by the text of the ids, and `counter` is the number in the last id that was
handed out. -/
structure Graph where
  steps : List Step := []
  index : TextMap Nat := ∅
  connections : List Connection := []
  counter : Nat := 0
  debounce : Debounce := {}
  deriving DecidableEq, Repr

namespace Graph

instance : Inhabited Graph := ⟨{}⟩

def withWindow (window : Nat) : Graph := { debounce := { window } }

def place? (graph : Graph) (id : StepId) : Option Nat := graph.index.get? id.text

def step? (graph : Graph) (id : StepId) : Option Step := (graph.place? id).bind (graph.steps[·]?)

def contains (graph : Graph) (id : StepId) : Bool := graph.index.contains id.text

def size (graph : Graph) : Nat := graph.steps.length

def isEmpty (graph : Graph) : Bool := graph.steps.isEmpty

def push (graph : Graph) (step : Step) : Graph :=
  { graph with
    steps := graph.steps ++ [step]
    index := graph.index.insert step.id.text graph.size }

def outgoing (graph : Graph) (id : StepId) : List Connection :=
  graph.connections.filter (·.source = id)

def incoming (graph : Graph) (id : StepId) : List Connection :=
  graph.connections.filter (·.target = id)

def children (graph : Graph) (id : StepId) : List Step :=
  graph.steps.filter (·.parent = some id)

def parent? (graph : Graph) (id : StepId) : Option StepId := (graph.step? id).bind (·.parent)

def parentLinks (graph : Graph) : Links StepId where
  next := graph.parent?
  targets := graph.steps.filterMap (·.parent)
  next_mem := by
    intro child parent found
    obtain ⟨step, here, above⟩ := Option.bind_eq_some_iff.mp found
    obtain ⟨place, _, there⟩ := Option.bind_eq_some_iff.mp here
    exact List.mem_filterMap.mpr ⟨step, List.mem_of_getElem? there, above⟩

def lineage (graph : Graph) (id : StepId) : List StepId := graph.parentLinks.trail id

/-- Only the first connection out of a step counts for what follows it in a chain. -/
def successor? (graph : Graph) (id : StepId) : Option StepId :=
  (graph.connections.find? (·.source = id)).map (·.target)

def chainLinks (graph : Graph) : Links StepId where
  next := graph.successor?
  targets := graph.connections.map (·.target)
  next_mem := by
    intro source target found
    obtain ⟨connection, here, ends⟩ := Option.map_eq_some_iff.mp found
    exact List.mem_map.mpr ⟨connection, List.mem_of_find?_eq_some here, ends⟩

def nameSeparator : String := " > "

def qualifiedName (graph : Graph) (id : StepId) : String :=
  nameSeparator.intercalate (((graph.lineage id).filterMap graph.step?).reverse.map (·.name))

def findQualified? (graph : Graph) (name : String) : Option Step :=
  graph.steps.find? fun step => graph.qualifiedName step.id = name

end Graph

end StepFlow
