import StepFlow.Step

namespace StepFlow

inductive Outcome
  | success
  | failure
  deriving DecidableEq, Repr

def Outcome.word : Outcome → String
  | success => "success"
  | failure => "failure"

structure Connection where
  source : StepId
  target : StepId
  outcome : Outcome
  deriving DecidableEq, Repr

def Connection.touches (connection : Connection) (id : StepId) : Bool :=
  connection.source = id || connection.target = id

end StepFlow
