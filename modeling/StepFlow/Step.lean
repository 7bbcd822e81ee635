namespace StepFlow

/-- Ids are only ever compared, never looked into. -/
structure StepId where
  text : String
  deriving DecidableEq, Repr

theorem StepId.text_inj {left right : StepId} : left.text = right.text ↔ left = right := by
  cases left
  cases right
  simp

/-- What a step is once a flow becomes a transition table: a node of the state machine, a condition
that guards a transition, or a user action that is walked through and never written out. -/
inductive Role
  | state
  | rule
  | behavior
  deriving DecidableEq, Repr

namespace Role

instance : Inhabited Role := ⟨state⟩

def word : Role → String
  | state => "state"
  | rule => "rule"
  | behavior => "behavior"

end Role

/-- Everything about a step but its id. Without a declared role the name decides. -/
structure Details where
  name : String
  nickname : Option String := none
  description : String := ""
  declaredRole : Option Role := none
  parent : Option StepId := none
  assumptions : List String := []
  questions : List String := []
  images : List String := []
  deriving DecidableEq, Repr

structure Step extends Details where
  id : StepId
  deriving DecidableEq, Repr

def Step.asRoot (step : Step) : Step := { step with parent := none }

def Step.orphan (step : Step) (gone : StepId) : Step :=
  if step.parent = some gone then step.asRoot else step

/-- New values for some fields of a step. A field that may be empty is either left alone (`none`),
cleared (`some none`) or set. -/
structure Patch where
  name : Option String := none
  nickname : Option (Option String) := none
  description : Option String := none
  declaredRole : Option (Option Role) := none
  parent : Option (Option StepId) := none
  assumptions : Option (List String) := none
  questions : Option (List String) := none
  images : Option (List String) := none
  deriving DecidableEq, Repr

def Patch.apply (patch : Patch) (step : Step) : Step where
  id := step.id
  name := patch.name.getD step.name
  nickname := patch.nickname.getD step.nickname
  description := patch.description.getD step.description
  declaredRole := patch.declaredRole.getD step.declaredRole
  parent := patch.parent.getD step.parent
  assumptions := patch.assumptions.getD step.assumptions
  questions := patch.questions.getD step.questions
  images := patch.images.getD step.images

end StepFlow
