import StepFlow.Proofs.Graph.Reload
import StepFlow.Proofs.Project.Run

namespace StepFlow.Project

def reloaded (project : Project) : Project :=
  { project with graph := { project.graph with counter := project.graph.size, debounce := {} } }

theorem ofSnapshot_snapshot {project : Project} (wellFormed : project.graph.WellFormed) :
    ofSnapshot project.snapshot = .ok project.reloaded := by
  rw [ofSnapshot, snapshot, wellFormed.ofParts_self]
  rfl

/-- No name is made from the counter or the requests. -/
theorem qualifiedName_reloaded (project : Project) (id : StepId) :
    project.reloaded.graph.qualifiedName id = project.graph.qualifiedName id := by
  rfl

theorem compileWith_reloaded (project : Project) (priority : Priority) :
    project.reloaded.compileWith priority = project.compileWith priority := by
  rfl

/-- Whatever a project went through and whatever project its snapshot is restored in, the restore
succeeds and nothing that the snapshot holds is lost. -/
theorem restore_snapshot {project : Project} (reachable : project.Reachable) (other : Project) :
    ∃ restored, other.restore project.snapshot = (.ok (), restored) ∧
      restored.graph.steps = project.graph.steps ∧
      restored.graph.connections = project.graph.connections ∧
      restored.keywords = project.keywords ∧
      restored.roles = project.roles ∧
      restored.dictionaries = project.dictionaries ∧
      restored.snapshot = project.snapshot ∧
      (∀ id, restored.graph.qualifiedName id = project.graph.qualifiedName id) ∧
      ∀ priority, restored.compileWith priority = project.compileWith priority := by
  refine ⟨project.reloaded, ?_, rfl, rfl, rfl, rfl, rfl, rfl, ?_, ?_⟩
  · rw [restore, ofSnapshot_snapshot reachable.wellFormed]
  · exact project.qualifiedName_reloaded
  · exact project.compileWith_reloaded

def importedTangle : Project :=
  ((ofParts Graph.tangle Graph.tangleConnections .standard).toOption).getD {}

/-- Edits that fail and edits that succeed, roles and labels of things that are no steps, and a
snapshot that cannot be restored. -/
def roughOperations : List Operation :=
  Graph.roughEdits.map .edit ++
    [.setRoles (.ofList [("a", .rule), ("ghost", .behavior)]),
      .setDictionaries { state := .ofList [("Nowhere", "NOWHERE")] },
      .restore ⟨Graph.tangle ++ Graph.tangle, [], .standard, ∅, {}⟩,
      .edit (.connect ⟨⟨"a"⟩, ⟨"a"⟩, .failure⟩ 5000),
      .sync,
      .setKeywords ⟨["a"], []⟩]

theorem restore_snapshot_rough : (importedTangle.run roughOperations).Reachable ∧
    ∃ restored, (run {} [.edit (.add { name := "Old" })]).restore
        (importedTangle.run roughOperations).snapshot = (.ok (), restored) ∧
      restored.snapshot = (importedTangle.run roughOperations).snapshot ∧
      restored.compile = (importedTangle.run roughOperations).compile := by
  have imported : ofParts Graph.tangle Graph.tangleConnections .standard = .ok importedTangle := by
    decide +kernel
  have reachable : (importedTangle.run roughOperations).Reachable :=
    ⟨importedTangle, roughOperations, .imported imported, rfl⟩
  obtain ⟨restored, succeeded, -, -, -, -, -, sameSnapshot, -, sameTable⟩ :=
    restore_snapshot reachable (run {} [.edit (.add { name := "Old" })])
  exact ⟨reachable, restored, succeeded, sameSnapshot, sameTable .standard⟩

end StepFlow.Project
