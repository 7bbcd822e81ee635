import StepFlow.Flow

/-!
Chains: what lies behind a connection out of a state. The rules and behaviors on the way to the
next state collapse into one list of rule labels.
-/
namespace StepFlow

/-- How a chain ends: at once on a state, on a state after some steps, at a step with nothing
behind it, or before a step that was walked already. -/
inductive ChainOutcome
  | direct
  | reached
  | dangling (last : StepId)
  | cycle (repeated : StepId)
  deriving DecidableEq, Repr

def ChainOutcome.ofEnd : WalkEnd StepId → ChainOutcome
  | .arrived _ => reached
  | .stuck last => dangling last
  | .looped repeated => cycle repeated

/-- `destination` is empty unless the chain comes to a state. `walked` counts the rules and
behaviors. -/
structure Chain where
  ruleList : String
  destination : String
  destinationStep : Option StepId
  ruleSteps : List StepId
  walked : Nat
  outcome : ChainOutcome
  deriving DecidableEq, Repr

def ruleSeparator : String := " + "

namespace Flow

def chainWalk (flow : Flow) (start : StepId) : Walk StepId :=
  flow.graph.chainLinks.walk (flow.hasRole .state) start

def chainOfWalk (flow : Flow) (walk : Walk StepId) : Chain :=
  let rules := walk.met.filter (flow.hasRole .rule)
  let goal := walk.ending.goal?
  { ruleList := ruleSeparator.intercalate (rules.map flow.ruleLabel)
    destination := (goal.map flow.stateLabel).getD ""
    destinationStep := goal
    ruleSteps := rules
    walked := walk.met.length
    outcome := .ofEnd walk.ending }

def resolve (flow : Flow) (connection : Connection) : Chain :=
  if flow.hasRole .state connection.target then
    { ruleList := ""
      destination := flow.stateLabel connection.target
      destinationStep := some connection.target
      ruleSteps := []
      walked := 0
      outcome := .direct }
  else flow.chainOfWalk (flow.chainWalk connection.target)

end Flow

end StepFlow
