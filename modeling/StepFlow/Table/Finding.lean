import StepFlow.Table.Row

namespace StepFlow

inductive Finding
  | unknownState (name : String)
  | unknownRule (name : String)
  | danglingChain (source last : StepId)
  | cyclicChain (source repeated : StepId)
  | branchingStep (step : StepId) (connections : Nat)
  deriving DecidableEq, Repr

def Finding.message : Finding → String
  | unknownState name => s!"no state dictionary entry for '{name}'"
  | unknownRule name => s!"no rule dictionary entry for '{name}'"
  | danglingChain source last =>
      s!"rule chain from '{source.text}' stops at '{last.text}' before reaching a state"
  | cyclicChain source repeated =>
      s!"rule chain from '{source.text}' loops back to '{repeated.text}'"
  | branchingStep step connections =>
      s!"step '{step.text}' has {connections} outgoing connections, only the first is followed"

namespace Flow

def branchings (flow : Flow) : List Finding :=
  flow.graph.steps.filterMap fun step =>
    let degree := (flow.graph.outgoing step.id).length
    if !flow.hasRole .state step.id && degree > 1 then some (.branchingStep step.id degree) else none

def stateFindings (flow : Flow) (id : StepId) : List Finding :=
  let name := flow.graph.qualifiedName id
  if flow.dictionaries.state.contains name then [] else [.unknownState name]

def ruleFindings (flow : Flow) (id : StepId) : List Finding :=
  let name := flow.graph.qualifiedName id
  if flow.dictionaries.rule.contains name then [] else [.unknownRule name]

def outcomeFindings (source : StepId) : ChainOutcome → List Finding
  | .dangling last => [.danglingChain source last]
  | .cycle repeated => [.cyclicChain source repeated]
  | .direct | .reached => []

def chainFindings (flow : Flow) (source : StepId) (chain : Chain) : List Finding :=
  outcomeFindings source chain.outcome ++ chain.destinationStep.toList.flatMap flow.stateFindings ++
    chain.ruleSteps.flatMap flow.ruleFindings

def rowFindings (flow : Flow) (generated : GeneratedRow) : List Finding :=
  flow.stateFindings generated.source ++
    generated.chain.toList.flatMap (flow.chainFindings generated.source)

end Flow

end StepFlow
