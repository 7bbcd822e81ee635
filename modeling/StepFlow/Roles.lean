import StepFlow.Graph.Basic
import StepFlow.NameTest
import StepFlow.TextMap

namespace StepFlow

/-- Keyed by the text of the step's id. -/
abbrev Roles := TextMap Role

namespace Roles

def get? (roles : Roles) (id : StepId) : Option Role := TextMap.get? roles id.text

def roleOf (roles : Roles) (id : StepId) : Role := (roles.get? id).getD .state

def set (roles : Roles) (id : StepId) (role : Role) : Roles := TextMap.insert roles id.text role

def unset (roles : Roles) (id : StepId) : Roles := TextMap.erase roles id.text

def classify (keywords : Keywords) (graph : Graph) : Roles :=
  graph.steps.foldl (fun roles step => roles.set step.id (keywords.roleOfStep step)) ∅

def fillStep (keywords : Keywords) (roles : Roles) (step : Step) : Roles :=
  match step.declaredRole, roles.get? step.id with
  | some role, _ => roles.set step.id role
  | none, some _ => roles
  | none, none => roles.set step.id (keywords.roleOfName step.name)

/-- Declared roles win over entries, entries over names. -/
def fill (roles : Roles) (keywords : Keywords) (graph : Graph) : Roles :=
  graph.steps.foldl (fillStep keywords) roles

def restrict (roles : Roles) (graph : Graph) : Roles :=
  TextMap.filterKeys roles fun text => graph.contains ⟨text⟩

end Roles

end StepFlow
