import StepFlow.Dictionary

namespace StepFlow

structure Flow where
  graph : Graph := {}
  roles : Roles := ∅
  dictionaries : Dictionaries := {}
  deriving DecidableEq, Repr

namespace Flow

/-- Roles are completed from declared roles and names. Without dictionaries every name is its own
label. -/
def complete (graph : Graph) (keywords : Keywords) (roles : Option Roles)
    (dictionaries : Option Dictionaries) : Flow :=
  let roles := match roles with
    | some roles => roles.fill keywords graph
    | none => Roles.classify keywords graph
  { graph, roles, dictionaries := dictionaries.getD (Dictionaries.defaults graph roles) }

def stateLabel (flow : Flow) (id : StepId) : String :=
  flow.dictionaries.stateLabel (flow.graph.qualifiedName id)

def ruleLabel (flow : Flow) (id : StepId) : String :=
  flow.dictionaries.ruleLabel (flow.graph.qualifiedName id)

def hasRole (flow : Flow) (role : Role) (id : StepId) : Bool := flow.roles.roleOf id = role

end Flow

end StepFlow
