import StepFlow.Chain
import StepFlow.Table.Priority

namespace StepFlow

structure Row where
  source : String
  destination : String
  ruleList : String
  priority : Priority
  operation : String
  deriving DecidableEq, Repr

def Row.terminal (source : String) (priority : Priority) : Row where
  source := source
  destination := ""
  ruleList := ""
  priority := priority
  operation := ""

/-- A row with the state it comes from and its chain, which a terminal row has not. -/
structure GeneratedRow where
  row : Row
  source : StepId
  chain : Option Chain
  deriving DecidableEq, Repr

namespace Flow

def rowOf (flow : Flow) (priority : Priority) (state : StepId) (connection : Connection) :
    GeneratedRow :=
  let chain := flow.resolve connection
  { row :=
      { source := flow.stateLabel state
        destination := chain.destination
        ruleList := chain.ruleList
        priority
        operation := "" }
    source := state
    chain := some chain }

def rowsOf (flow : Flow) (priority : Priority) (state : StepId) : List GeneratedRow :=
  match flow.graph.outgoing state with
  | [] => [{ row := .terminal (flow.stateLabel state) priority, source := state, chain := none }]
  | connections => connections.map (flow.rowOf priority state)

def states (flow : Flow) : List StepId :=
  (flow.graph.steps.map (·.id)).filter (flow.hasRole .state)

def rows (flow : Flow) (priority : Priority) : List GeneratedRow :=
  flow.states.flatMap (flow.rowsOf priority)

def plainRows (flow : Flow) : List Row := (flow.rows .standard).map (·.row)

end Flow

end StepFlow
