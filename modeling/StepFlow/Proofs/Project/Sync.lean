import StepFlow.Proofs.Project.Restore
import StepFlow.Proofs.Roles
import StepFlow.Proofs.Table.Findings
import StepFlow.Proofs.Table.Relabel

/-!
Bringing a project up to date. Whatever has become of its roles and labels, afterwards there is a
role for each step and for nothing else, and no name lacks a label; a project like that has nothing
left to bring up to date (`UpToDate.sync_eq`). A table needs the roles just as much, so it is made
for the same steps before and after, and only labels that were missing can be new
(`sync_completes`).
-/
namespace StepFlow.Project

theorem sync_roles (project : Project) : project.sync.roles =
    (project.roles.restrict project.graph).fill project.keywords project.graph := rfl

theorem sync_dictionaries (project : Project) : project.sync.dictionaries =
    (project.dictionaries.mergeDefaults project.graph project.sync.roles).1 := rfl

/-- Nothing is missing and no role is left over. Labels that are no longer used may be. -/
structure UpToDate (project : Project) : Prop where
  roles : project.roles.Settled project.graph
  labels : project.dictionaries.Covers project.graph project.roles

namespace UpToDate

variable {project : Project} (upToDate : project.UpToDate)

include upToDate

theorem sync_eq (wellFormed : project.graph.WellFormed) : project.sync = project := by
  have sameRoles : project.sync.roles = project.roles := by
    calc
      project.sync.roles
      _ = (project.roles.restrict project.graph).fill project.keywords project.graph :=
        project.sync_roles
      _ = project.roles.fill project.keywords project.graph := by
        rw [upToDate.roles.restrict_eq wellFormed.indexed]
      _ = project.roles := upToDate.roles.fill_eq wellFormed.indexed project.keywords
  have sameLabels : project.sync.dictionaries = project.dictionaries := by
    rw [sync_dictionaries, sameRoles]
    exact upToDate.labels.mergeDefaults_eq
  exact congrArg₂ (fun roles dictionaries => { project with roles, dictionaries })
    sameRoles sameLabels

theorem completed_eq (wellFormed : project.graph.WellFormed) :
    project.completed = project.toFlow := by
  rw [completed, Flow.complete, upToDate.roles.fill_eq wellFormed.indexed]
  rfl

theorem no_unknown_name (wellFormed : project.graph.WellFormed) (priority : Priority)
    (name : String) :
    .unknownState name ∉ (project.compileWith priority).findings ∧
      .unknownRule name ∉ (project.compileWith priority).findings := by
  rw [compileWith, upToDate.completed_eq wellFormed, Flow.mem_findings_iff wellFormed,
    Flow.mem_findings_iff wellFormed]
  exact Flow.not_unknown_of_covers wellFormed upToDate.labels name

end UpToDate

section Sync

variable (project : Project)

theorem upToDate_sync (wellFormed : project.graph.WellFormed) : project.sync.UpToDate where
  roles := Roles.settled_fill_restrict project.keywords project.roles wellFormed.indexed
  labels := Dictionaries.covers_mergeDefaults project.dictionaries project.graph project.sync.roles

theorem labels_within_sync (role : Role) (hasLabels : role ≠ .behavior) :
    (project.dictionaries.labels role).Within (project.sync.dictionaries.labels role) :=
  fun _ _ => Dictionaries.get?_mergeDefaults_of_some project.graph project.sync.roles hasLabels

/-- A table completes roles on its own. It leaves entries of other ids in place, but nothing asks
for them. -/
theorem completed_relabelled (wellFormed : project.graph.WellFormed) :
    project.completed.Relabelled project.sync.completed where
  graph := rfl
  roles := by
    intro id isStep
    rcases Graph.mem_ids.mp isStep with ⟨step, member, rfl⟩
    have synced : project.sync.completed = project.sync.toFlow :=
      (project.upToDate_sync wellFormed).completed_eq wellFormed
    have entry : project.completed.roles.get? step.id = project.sync.roles.get? step.id :=
      (Roles.get?_fill_of_mem project.keywords project.roles wellFormed.indexed member).trans
        (Roles.get?_fill_restrict wellFormed.indexed member).symm
    rw [synced, Roles.roleOf, Roles.roleOf, entry]
  stateLabels := project.labels_within_sync .state (by decide)
  ruleLabels := project.labels_within_sync .rule (by decide)

end Sync

structure CompletedBy (before after : Project) : Prop where
  graph : after.graph = before.graph
  keywords : after.keywords = before.keywords
  onlySteps : ∀ id, (∃ role, after.roles.get? id = some role) ↔ id ∈ before.graph.ids
  declared : ∀ step ∈ before.graph.steps, ∀ role, step.declaredRole = some role →
    after.roles.get? step.id = some role
  kept : ∀ step ∈ before.graph.steps, step.declaredRole = none → ∀ role,
    before.roles.get? step.id = some role → after.roles.get? step.id = some role
  classified : ∀ step ∈ before.graph.steps, before.roles.get? step.id = none →
    after.roles.get? step.id = some (before.keywords.roleOfStep step)
  stateLabels : before.dictionaries.state.Within after.dictionaries.state
  ruleLabels : before.dictionaries.rule.Within after.dictionaries.rule
  settled : after.sync = after
  noUnknownName : ∀ priority name,
    .unknownState name ∉ (after.compileWith priority).findings ∧
      .unknownRule name ∉ (after.compileWith priority).findings
  -- `compileWith` lists the cells of the rows of the completed flow.
  rows : ∀ priority, List.Forall₂ before.completed.KeptWhereLabelled
    (before.completed.rows priority) (after.completed.rows priority)

/-- However far roles and labels have drifted from the graph, one pass completes them and takes
nothing away but roles of things that are no steps, or that a step's own declaration overrules. -/
theorem sync_completes {project : Project} (reachable : project.Reachable) :
    project.CompletedBy project.sync := by
  have wellFormed := reachable.wellFormed
  have upToDate := project.upToDate_sync wellFormed
  have entry {step : Step} (member : step ∈ project.graph.steps) : project.sync.roles.get? step.id =
      some (Roles.filled project.keywords step (project.roles.get? step.id)) :=
    Roles.get?_fill_restrict wellFormed.indexed member
  exact {
    graph := rfl
    keywords := rfl
    onlySteps := by
      intro id
      constructor
      · rintro ⟨role, here⟩
        exact upToDate.roles.onlySteps id role here
      · intro isStep
        rcases Graph.mem_ids.mp isStep with ⟨step, member, rfl⟩
        exact ⟨_, entry member⟩
    declared := by
      intro step member role declares
      rw [entry member, Roles.filled, declares, Option.getD_some]
    kept := by
      intro step member undeclared role before
      rw [entry member, Roles.filled, undeclared, before, Option.getD_none, Option.getD_some]
    classified := by
      intro step member before
      rw [entry member, (Roles.filled_eq_roleOfStep_iff _ _ _).mpr]
      simp [before]
    stateLabels := project.labels_within_sync .state (by decide)
    ruleLabels := project.labels_within_sync .rule (by decide)
    settled := upToDate.sync_eq wellFormed
    noUnknownName := upToDate.no_unknown_name wellFormed
    rows := (project.completed_relabelled wellFormed).rows wellFormed }

def driftOperations : List Operation :=
  Flow.lassoEdits.map .edit ++
    [.setRoles (.ofList [("step-1", .state), ("step-9", .behavior)]),
      .setDictionaries { state := .ofList [("Door", "DOOR"), ("Gate", "GATE")] }]

def drifted : Project := run {} driftOperations

theorem reachable_drifted : drifted.Reachable := ⟨{}, driftOperations, .new, rfl⟩

theorem sync_completes_drifted : drifted.Reachable ∧ drifted.CompletedBy drifted.sync ∧
    drifted.compile.rows.map Row.key =
      [("DOOR", "[UNKNOWN_STATE: Knock]", "[UNKNOWN_RULE: Is it open?]"),
        ("[UNKNOWN_STATE: Knock]", "[UNKNOWN_STATE: Knock]", "[UNKNOWN_RULE: Is it open?]")] ∧
    drifted.sync.compile.rows.map Row.key =
      [("DOOR", "Knock", "Is it open?"), ("Knock", "Knock", "Is it open?")] :=
  ⟨reachable_drifted, sync_completes reachable_drifted, by decide +kernel, by decide +kernel⟩

end StepFlow.Project
