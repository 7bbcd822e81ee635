import StepFlow.Project

/-!
Snapshots: what is kept of a project. A restored graph counts its ids on from the number of its
steps and remembers no connection request.
-/
namespace StepFlow

structure Snapshot where
  steps : List Step
  connections : List Connection
  keywords : Keywords
  roles : Roles
  dictionaries : Dictionaries
  deriving DecidableEq, Repr

namespace Project

def snapshot (project : Project) : Snapshot where
  steps := project.graph.steps
  connections := project.graph.connections
  keywords := project.keywords
  roles := project.roles
  dictionaries := project.dictionaries

def ofSnapshot (snapshot : Snapshot) : Except GraphError Project :=
  (Graph.ofParts snapshot.steps snapshot.connections).map fun graph =>
    { graph
      keywords := snapshot.keywords
      roles := snapshot.roles
      dictionaries := snapshot.dictionaries }

end Project

/-- A snapshot as a file spells it out: maps are lists of entries in any order, and the keywords
are two lists of words. -/
structure Manifest where
  steps : List Step
  connections : List Connection
  ruleKeywords : List String
  behaviorKeywords : List String
  roles : List (String × Role)
  stateLabels : List (String × String)
  ruleLabels : List (String × String)
  deriving DecidableEq, Repr

def Snapshot.manifest (snapshot : Snapshot) : Manifest where
  steps := snapshot.steps
  connections := snapshot.connections
  ruleKeywords := snapshot.keywords.rule
  behaviorKeywords := snapshot.keywords.behavior
  roles := snapshot.roles.entries
  stateLabels := snapshot.dictionaries.state.entries
  ruleLabels := snapshot.dictionaries.rule.entries

def Manifest.snapshot? (manifest : Manifest) : Option Snapshot := do
  let keywords ← (Keywords.ofLists manifest.ruleKeywords manifest.behaviorKeywords).toOption
  return {
    steps := manifest.steps
    connections := manifest.connections
    keywords
    roles := .ofList manifest.roles
    dictionaries := { state := .ofList manifest.stateLabels, rule := .ofList manifest.ruleLabels } }

end StepFlow
