import StepFlow.Step

namespace StepFlow

inductive GraphError
  | unknownStep (id : StepId)
  | unknownParent (step parent : StepId)
  | parentCycle (step parent : StepId)
  | duplicateId (id : StepId)
  deriving DecidableEq, Repr

def GraphError.message : GraphError → String
  | unknownStep id => s!"Step '{id.text}' does not exist"
  | unknownParent step parent =>
      s!"Step '{step.text}' cannot be parented to '{parent.text}', which does not exist"
  | parentCycle step parent =>
      s!"Parenting step '{step.text}' to '{parent.text}' would create an ancestor cycle"
  | duplicateId id => s!"Step id '{id.text}' is used by more than one step"

end StepFlow
