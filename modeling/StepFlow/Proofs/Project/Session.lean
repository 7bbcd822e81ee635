import StepFlow.Proofs.Project.Run
import StepFlow.Proofs.Roles

/-!
Sessions: a project that is edited, saved and restored. The role of an id can outlive its step,
until the roles are brought up to date, and an id can be handed out again after a restore; a new
step then takes over the role that was left behind. `added_takesOwnRole_iff` says when.
-/
namespace StepFlow

namespace Project

def withRole (project : Project) (id : StepId) (role : Role) : Project :=
  { project with roles := project.roles.set id role }

def withoutRole (project : Project) (id : StepId) : Project :=
  { project with roles := project.roles.unset id }

def TakesOwnRole (project : Project) (id : StepId) : Prop :=
  ∃ step, project.graph.step? id = some step ∧
    project.roles.get? id = some (project.keywords.roleOfStep step)

end Project

structure Session where
  project : Project := {}
  saved : List Snapshot := []
  deriving DecidableEq, Repr

namespace Session

/-- Roles are changed by hand for steps only, and only own snapshots are restored. -/
inductive Move (session : Session) : Session → Prop
  | edit (edit : Graph.Edit) : Move session { session with project := session.project.edit edit }
  | sync : Move session { session with project := session.project.sync }
  | reclassify : Move session { session with project := session.project.reclassify }
  | setRole {id : StepId} (isStep : session.project.graph.contains id = true) (role : Role) :
      Move session { session with project := session.project.withRole id role }
  | unsetRole (id : StepId) :
      Move session { session with project := session.project.withoutRole id }
  | save : Move session { session with saved := session.project.snapshot :: session.saved }
  | restore {snapshot : Snapshot} {project : Project} (own : snapshot ∈ session.saved)
      (restored : Project.ofSnapshot snapshot = .ok project) : Move session { session with project }

inductive Run : List Session → Session → Prop
  | new : Run [] {}
  | imported {steps : List Step} {connections : List Connection} {keywords : Keywords}
      {project : Project} (succeeded : Project.ofParts steps connections keywords = .ok project) :
      Run [] { project }
  | next {past : List Session} {session after : Session} (before : Run past session)
      (move : session.Move after) : Run (session :: past) after

structure Traced (history : List Session) (session : Session) : Prop where
  wellFormed : session.project.graph.WellFormed
  saved : ∀ snapshot ∈ session.saved, ∃ earlier ∈ history, snapshot = earlier.project.snapshot
  wasStep : ∀ id role, session.project.roles.get? id = some role →
    ∃ earlier ∈ history, id ∈ earlier.project.graph.ids

theorem Traced.mono {history longer : List Session} {session : Session}
    (traced : session.Traced history) (within : history ⊆ longer) : session.Traced longer where
  wellFormed := traced.wellFormed
  saved := by
    intro snapshot member
    obtain ⟨earlier, known, same⟩ := traced.saved snapshot member
    exact ⟨earlier, within known, same⟩
  wasStep := by
    intro id role entry
    obtain ⟨earlier, known, isStep⟩ := traced.wasStep id role entry
    exact ⟨earlier, within known, isStep⟩

theorem Traced.move {history : List Session} {session after : Session}
    (traced : ∀ earlier ∈ history, earlier.Traced history) (current : session ∈ history)
    (move : session.Move after) : after.Traced (after :: history) := by
  have old := (traced session current).mono (List.subset_cons_self after history)
  have known : session ∈ after :: history := List.mem_cons_of_mem after current
  cases move with
  | edit edit =>
      exact { old with
        wellFormed := (Graph.change_apply session.project.graph edit).wellFormed old.wellFormed }
  | sync =>
      exact { old with
        wasStep := by
          intro id role entry
          exact ⟨session, known, Roles.mem_ids_of_get?_fill_restrict old.wellFormed.indexed entry⟩ }
  | reclassify =>
      exact { old with
        wasStep := by
          intro id role entry
          exact ⟨session, known, Roles.mem_ids_of_get?_classify entry⟩ }
  | @setRole changed isStep newRole =>
      exact { old with
        wasStep := by
          intro id role entry
          have lookup : (if id = changed then some newRole else session.project.roles.get? id) =
              some role := (Roles.get?_set _ changed newRole id).symm.trans entry
          by_cases same : id = changed
          · rw [same]
            exact ⟨session, known, (old.wellFormed.indexed.contains_iff changed).mp isStep⟩
          · rw [if_neg same] at lookup
            exact old.wasStep id role lookup }
  | unsetRole removed =>
      exact { old with
        wasStep := by
          intro id role entry
          have lookup : (if id = removed then none else session.project.roles.get? id) =
              some role := (Roles.get?_unset _ removed id).symm.trans entry
          by_cases same : id = removed
          · simp [same] at lookup
          · rw [if_neg same] at lookup
            exact old.wasStep id role lookup }
  | save =>
      exact { old with
        saved := by
          intro snapshot member
          rcases List.mem_cons.mp member with new | before
          · exact ⟨session, known, new⟩
          · exact old.saved snapshot before }
  | @restore snapshot project own restored =>
      obtain ⟨earlier, before, same⟩ := (traced session current).saved snapshot own
      have made := Project.madeFrom_of_ofSnapshot restored
      exact { old with
        wellFormed := (Graph.loadedFrom_of_ofParts made.graph).wellFormed
        wasStep := by
          intro id role entry
          have entryBefore : earlier.project.roles.get? id = some role := by
            have moved : project.roles = earlier.project.roles := by rw [made.roles, same]; rfl
            exact moved ▸ entry
          obtain ⟨first, there, wasStep⟩ := (traced earlier before).wasStep id role entryBefore
          exact ⟨first, List.mem_cons_of_mem _ there, wasStep⟩ }

/-- Every session of a run is traced, the earlier ones because they may be restored. -/
theorem Run.traced {past : List Session} {session : Session} (run : Run past session) :
    ∀ earlier ∈ session :: past, earlier.Traced (session :: past) := by
  induction run with
  | new =>
      intro earlier member
      rw [List.mem_singleton.mp member]
      exact {
        wellFormed := Graph.Initial.empty.wellFormed
        saved := by simp
        wasStep := by
          intro id role entry
          cases entry }
  | @imported steps connections keywords project succeeded =>
      obtain ⟨loaded, classified⟩ := Project.ofParts_ok succeeded
      intro earlier member
      rw [List.mem_singleton.mp member]
      exact {
        wellFormed := (Graph.loadedFrom_of_ofParts loaded).wellFormed
        saved := by simp
        wasStep := by
          intro id role entry
          have entry' : (Roles.classify keywords project.graph).get? id = some role :=
            classified ▸ entry
          exact ⟨_, List.mem_cons_self, Roles.mem_ids_of_get?_classify entry'⟩ }
  | @next past session after before move ih =>
      intro earlier member
      rcases List.mem_cons.mp member with latest | old
      · rw [latest]
        exact Traced.move ih List.mem_cons_self move
      · exact (ih earlier old).mono (List.subset_cons_self after _)

def added (session : Session) (details : Details) : Project :=
  (session.project.edit (.add details)).sync

def leftover (session : Session) : Option Role :=
  session.project.roles.get? (.numbered session.project.graph.freshNumber)

theorem added_step? {session : Session} (wellFormed : session.project.graph.WellFormed)
    (details : Details) :
    (session.added details).graph.step? (.numbered session.project.graph.freshNumber) =
      some (session.project.graph.newStep details) := by
  have grown := (Graph.change_apply session.project.graph (.add details)).wellFormed wellFormed
  apply grown.indexed.step?_eq_some_iff.mpr
  exact ⟨List.mem_append_right _ List.mem_cons_self, rfl⟩

theorem added_role? {session : Session} (wellFormed : session.project.graph.WellFormed)
    (details : Details) :
    (session.added details).roles.get? (.numbered session.project.graph.freshNumber) =
      some (Roles.filled session.project.keywords (session.project.graph.newStep details)
        session.leftover) := by
  have grown := (Graph.change_apply session.project.graph (.add details)).wellFormed wellFormed
  have member : session.project.graph.newStep details ∈
      (session.project.graph.apply (.add details)).2.steps :=
    List.mem_append_right _ List.mem_cons_self
  exact Roles.get?_fill_restrict grown.indexed member

/-- A new step has its own role exactly if it declares one or no other one was left for its id.
Such a role stems from a step that had the id earlier in the run. -/
theorem added_takesOwnRole_iff {past : List Session} {session : Session} (run : Run past session)
    (details : Details) :
    ((session.added details).TakesOwnRole (session.project.graph.addStep details).1 ↔
      details.declaredRole.isSome ∨ ∀ role, session.leftover = some role →
        role = session.project.keywords.roleOfName details.name) ∧
    ∀ role, session.leftover = some role →
      ∃ earlier ∈ past, (session.project.graph.addStep details).1 ∈ earlier.project.graph.ids := by
  have traced := run.traced session List.mem_cons_self
  have found := added_step? traced.wellFormed details
  have role := added_role? traced.wellFormed details
  constructor
  · have ownRole := Roles.filled_eq_roleOfStep_iff session.project.keywords
      (session.project.graph.newStep details) session.leftover
    refine Iff.trans ?_ ownRole
    constructor
    · intro own
      obtain ⟨step, here, itsRole⟩ := own
      have same : session.project.graph.newStep details = step :=
        Option.some.inj (found.symm.trans here)
      rw [← same] at itsRole
      exact Option.some.inj (role.symm.trans itsRole)
    · intro equal
      exact ⟨_, found, role.trans (congrArg some equal)⟩
  · intro left entry
    obtain ⟨earlier, member, wasStep⟩ := traced.wasStep _ left entry
    rcases List.mem_cons.mp member with now | before
    · rw [now] at wasStep
      exact absurd wasStep traced.wellFormed.indexed.freshNumber_least.2.1
    · exact ⟨earlier, before, wasStep⟩

def question : Step := { id := ⟨"step-2"⟩, name := "Is valid?" }

def questionAlone : Project := ((Project.ofParts [question] [] .standard).toOption).getD {}

def questionGone : Project := questionAlone.edit (.remove ⟨"step-2"⟩)

theorem run_questionAlone : Run [] { project := questionAlone } := by
  have succeeded : Project.ofParts [question] [] .standard = .ok questionAlone := by
    decide +kernel
  exact .imported succeeded

theorem run_questionGone : Run [{ project := questionAlone }] { project := questionGone } :=
  .next run_questionAlone (.edit (.remove ⟨"step-2"⟩))

theorem added_takesOwnRole_synced :
    Run [{ project := questionGone }, { project := questionAlone }]
      { project := questionGone.sync } ∧
    (added { project := questionGone.sync } { name := "Home" }).TakesOwnRole ⟨"step-2"⟩ := by
  have run := Run.next run_questionGone .sync
  refine ⟨run, (added_takesOwnRole_iff run { name := "Home" }).1.mpr (.inr ?_)⟩
  have nothingLeft : leftover { project := questionGone.sync } = none := by decide +kernel
  simp [nothingLeft]

/-- The role of the question is taken over by a step that would be a state. -/
theorem added_takes_leftover_role :
    Run [{ project := questionAlone }] { project := questionGone } ∧
    ¬ (added { project := questionGone } { name := "Home" }).TakesOwnRole
        (questionGone.graph.addStep { name := "Home" }).1 := by
  refine ⟨run_questionGone, ?_⟩
  have newId : (questionGone.graph.addStep { name := "Home" }).1 = ⟨"step-2"⟩ := by decide +kernel
  have found : (added { project := questionGone } { name := "Home" }).graph.step? ⟨"step-2"⟩ =
      some { id := ⟨"step-2"⟩, name := "Home" } := by decide +kernel
  have itsRole : (added { project := questionGone } { name := "Home" }).roles.get? ⟨"step-2"⟩ =
      some .rule := by decide +kernel
  have ownRole : (added { project := questionGone } { name := "Home" }).keywords.roleOfStep
      { id := ⟨"step-2"⟩, name := "Home" } = .state := by decide +kernel
  rw [newId]
  intro own
  obtain ⟨step, here, role⟩ := own
  cases found.symm.trans here
  rw [itsRole, ownRole] at role
  cases role

end Session

end StepFlow
