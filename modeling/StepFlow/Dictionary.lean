import StepFlow.Roles

/-!
Dictionaries from qualified names to the labels written to the table, one for states and one for
rules. An entry belongs to a name and not to a step: it stays behind when the step is renamed, and
is then stale.
-/
namespace StepFlow

abbrev Dictionary := TextMap String

def unknownStateLabel (name : String) : String := s!"[UNKNOWN_STATE: {name}]"

def unknownRuleLabel (name : String) : String := s!"[UNKNOWN_RULE: {name}]"

structure Dictionaries where
  state : Dictionary := ∅
  rule : Dictionary := ∅
  deriving DecidableEq, Repr

structure StaleKeys where
  state : List String
  rule : List String
  deriving DecidableEq, Repr

def StaleKeys.isEmpty (stale : StaleKeys) : Bool := stale.state.isEmpty && stale.rule.isEmpty

def Dictionary.addDefault (dictionary : Dictionary) (name : String) : Dictionary × Nat :=
  if dictionary.contains name then (dictionary, 0) else (dictionary.insert name name, 1)

namespace Dictionaries

instance : Inhabited Dictionaries := ⟨{}⟩

def stateLabel (dictionaries : Dictionaries) (name : String) : String :=
  (dictionaries.state.get? name).getD (unknownStateLabel name)

def ruleLabel (dictionaries : Dictionaries) (name : String) : String :=
  (dictionaries.rule.get? name).getD (unknownRuleLabel name)

def addDefault (dictionaries : Dictionaries) (role : Role) (name : String) : Dictionaries × Nat :=
  match role with
  | .state =>
      let (state, added) := Dictionary.addDefault dictionaries.state name
      ({ dictionaries with state }, added)
  | .rule =>
      let (rule, added) := Dictionary.addDefault dictionaries.rule name
      ({ dictionaries with rule }, added)
  | .behavior => (dictionaries, 0)

def mergeDefaults (dictionaries : Dictionaries) (graph : Graph) (roles : Roles) :
    Dictionaries × Nat :=
  graph.steps.foldl (fun (merged, count) step =>
    let (grown, added) := merged.addDefault (roles.roleOf step.id) (graph.qualifiedName step.id)
    (grown, count + added)) (dictionaries, 0)

def defaults (graph : Graph) (roles : Roles) : Dictionaries :=
  (mergeDefaults {} graph roles).1

def liveNames (graph : Graph) (roles : Roles) (role : Role) : List String :=
  (graph.steps.filter fun step => roles.roleOf step.id = role).map
    fun step => graph.qualifiedName step.id

def staleKeys (dictionaries : Dictionaries) (graph : Graph) (roles : Roles) : StaleKeys where
  state := dictionaries.state.keys.filter (· ∉ liveNames graph roles .state)
  rule := dictionaries.rule.keys.filter (· ∉ liveNames graph roles .rule)

end Dictionaries

end StepFlow
