import StepFlow.Proofs.Graph.Run
import StepFlow.Snapshot.Basic

namespace StepFlow.Project

def edit (project : Project) (edit : Graph.Edit) : Project :=
  { project with graph := (project.graph.apply edit).2 }

def restore (project : Project) (snapshot : Snapshot) : Except GraphError Unit × Project :=
  match ofSnapshot snapshot with
  | .ok restored => (.ok (), restored)
  | .error error => (.error error, project)

def loadParts (project : Project) (steps : List Step) (connections : List Connection) : Project :=
  match Graph.ofParts steps connections with
  | .ok graph => { project with graph }
  | .error _ => project

/-- Changing a role or a label, or removing one, gives other roles or other dictionaries; so do
those of an earlier project put back. -/
inductive Operation
  | edit (edit : Graph.Edit)
  | clear (window : Nat)
  | load (steps : List Step) (connections : List Connection)
  | setKeywords (keywords : Keywords)
  | setRoles (roles : Roles)
  | setDictionaries (dictionaries : Dictionaries)
  | reclassify
  | regenerate
  | mergeDefaults
  | sync
  | restore (snapshot : Snapshot)
  deriving DecidableEq, Repr

def perform (project : Project) : Operation → Project
  | .edit edit => project.edit edit
  | .clear window => { project with graph := .withWindow window }
  | .load steps connections => project.loadParts steps connections
  | .setKeywords keywords => { project with keywords }
  | .setRoles roles => { project with roles }
  | .setDictionaries dictionaries => { project with dictionaries }
  | .reclassify => project.reclassify
  | .regenerate => project.regenerate
  | .mergeDefaults => project.mergeDefaults.1
  | .sync => project.sync
  | .restore snapshot => (project.restore snapshot).2

def run (project : Project) (operations : List Operation) : Project := operations.foldl perform project

inductive Initial : Project → Prop
  | new : Initial {}
  | imported {steps : List Step} {connections : List Connection} {keywords : Keywords}
      {project : Project} (succeeded : ofParts steps connections keywords = .ok project) :
      Initial project

def Reachable (project : Project) : Prop :=
  ∃ start operations, Initial start ∧ start.run operations = project

structure MadeFrom (project : Project) (snapshot : Snapshot) : Prop where
  graph : Graph.ofParts snapshot.steps snapshot.connections = .ok project.graph
  keywords : project.keywords = snapshot.keywords
  roles : project.roles = snapshot.roles
  dictionaries : project.dictionaries = snapshot.dictionaries

theorem madeFrom_of_ofSnapshot {snapshot : Snapshot} {project : Project}
    (made : ofSnapshot snapshot = .ok project) : project.MadeFrom snapshot := by
  rw [ofSnapshot] at made
  cases loaded : Graph.ofParts snapshot.steps snapshot.connections with
  | error error =>
      rw [loaded] at made
      cases made
  | ok graph =>
      rw [loaded] at made
      cases made
      exact ⟨loaded, rfl, rfl, rfl⟩

theorem ofParts_ok {steps : List Step} {connections : List Connection} {keywords : Keywords}
    {project : Project} (succeeded : ofParts steps connections keywords = .ok project) :
    Graph.ofParts steps connections = .ok project.graph ∧
      project.roles = Roles.classify keywords project.graph := by
  rw [ofParts] at succeeded
  cases loaded : Graph.ofParts steps connections with
  | error error =>
      rw [loaded] at succeeded
      cases succeeded
  | ok graph =>
      rw [loaded] at succeeded
      cases succeeded
      exact ⟨rfl, rfl⟩

theorem Initial.wellFormed {start : Project} (initial : start.Initial) : start.graph.WellFormed := by
  cases initial with
  | new => exact Graph.Initial.empty.wellFormed
  | imported succeeded => exact (Graph.Initial.loaded (ofParts_ok succeeded).1).wellFormed

theorem wellFormed_perform {project : Project} (wellFormed : project.graph.WellFormed)
    (operation : Operation) : (project.perform operation).graph.WellFormed := by
  cases operation with
  | edit edit => exact (Graph.change_apply project.graph edit).wellFormed wellFormed
  | clear window => exact (Graph.Initial.windowed window).wellFormed
  | load steps connections =>
      rw [perform, loadParts]
      cases loaded : Graph.ofParts steps connections with
      | error error => exact wellFormed
      | ok graph => exact (Graph.Initial.loaded loaded).wellFormed
  | restore snapshot =>
      rw [perform, restore]
      cases restored : ofSnapshot snapshot with
      | error error => exact wellFormed
      | ok after => exact (Graph.Initial.loaded (madeFrom_of_ofSnapshot restored).graph).wellFormed
  | setKeywords | setRoles | setDictionaries | reclassify | regenerate | mergeDefaults | sync =>
      exact wellFormed

theorem wellFormed_run {project : Project} (wellFormed : project.graph.WellFormed)
    (operations : List Operation) : (project.run operations).graph.WellFormed := by
  induction operations generalizing project with
  | nil => exact wellFormed
  | cons operation rest ih => exact ih (wellFormed_perform wellFormed operation)

theorem Reachable.wellFormed {project : Project} (reachable : project.Reachable) :
    project.graph.WellFormed := by
  rcases reachable with ⟨start, operations, initial, rfl⟩
  exact wellFormed_run initial.wellFormed operations

end StepFlow.Project
