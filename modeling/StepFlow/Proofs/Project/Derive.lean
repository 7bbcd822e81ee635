import StepFlow.Proofs.Project.Sync

namespace StepFlow.Project

def rederived (project : Project) : Project := project.reclassify.regenerate

theorem rederived_toFlow (project : Project) :
    project.rederived.toFlow = Flow.complete project.graph project.keywords none none := rfl

section WellFormed

variable {project : Project} (wellFormed : project.graph.WellFormed)

include wellFormed

theorem upToDate_rederived : project.rederived.UpToDate where
  roles := Roles.settled_classify project.keywords wellFormed.indexed
  labels := Dictionaries.covers_defaults project.graph project.rederived.roles

/-- The graph needs no repair, so an import leaves the same project as a restore. -/
theorem ofParts_parts : ofParts project.graph.steps project.graph.connections project.keywords =
    .ok project.rederived.reloaded := by
  rw [ofParts, wellFormed.ofParts_self]
  rfl

/-- Filling up the new roles once more adds none. -/
theorem compileWith_rederived (priority : Priority) : project.rederived.compileWith priority =
    (Flow.complete project.graph project.keywords none none).compile priority := by
  rw [compileWith, (upToDate_rederived wellFormed).completed_eq wellFormed, rederived_toFlow]

end WellFormed

/-- Whatever a project went through: once it has been derived anew, its table is the one of its
graph and keywords alone and the one of an import of the parts, and it is up to date. -/
theorem derivations_agree {project : Project} (reachable : project.Reachable) :
    (∀ priority, project.rederived.compileWith priority =
      (Flow.complete project.graph project.keywords none none).compile priority) ∧
    (∃ imported,
      ofParts project.graph.steps project.graph.connections project.keywords = .ok imported ∧
      imported.snapshot = project.rederived.snapshot ∧
      ∀ priority, imported.compileWith priority = project.rederived.compileWith priority) ∧
    project.rederived.sync = project.rederived := by
  have wellFormed := reachable.wellFormed
  refine ⟨compileWith_rederived wellFormed, ?_, (upToDate_rederived wellFormed).sync_eq wellFormed⟩
  exact ⟨project.rederived.reloaded, ofParts_parts wellFormed, rfl,
    project.rederived.compileWith_reloaded⟩

theorem derivations_agree_drifted : drifted.Reachable ∧
    drifted.rederived.compile =
      (Flow.complete drifted.graph drifted.keywords none none).compile .standard ∧
    (∃ imported,
      ofParts drifted.graph.steps drifted.graph.connections drifted.keywords = .ok imported ∧
      imported.snapshot = drifted.rederived.snapshot ∧
      imported.compile = drifted.rederived.compile) ∧
    drifted.rederived.sync = drifted.rederived ∧
    drifted.rederived.compile.rows.map Row.key =
      [("Door", "Knock", "Is it open?"), ("Knock", "Knock", "Is it open?")] := by
  rcases derivations_agree reachable_drifted with
    ⟨ofGraphAlone, ⟨imported, succeeded, sameSnapshot, sameTable⟩, unchanged⟩
  exact ⟨reachable_drifted, ofGraphAlone .standard,
    ⟨imported, succeeded, sameSnapshot, sameTable .standard⟩, unchanged, by decide +kernel⟩

end StepFlow.Project
