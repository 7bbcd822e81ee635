import StepFlow.Proofs.Graph.Names
import StepFlow.Proofs.Graph.Updates
import StepFlow.Proofs.Project.Sync
import StepFlow.Proofs.TextMap

namespace StepFlow

namespace Dictionaries

def renameKey? (dictionaries : Dictionaries) (role : Role) (source target : String) :
    Option Dictionaries :=
  match role with
  | .state =>
      (TextMap.rename? dictionaries.state source target).map ({ dictionaries with state := · })
  | .rule =>
      (TextMap.rename? dictionaries.rule source target).map ({ dictionaries with rule := · })
  | .behavior => none

variable {dictionaries moved : Dictionaries} {role : Role} {source target : String}
  (renamed : dictionaries.renameKey? role source target = some moved)

include renamed

theorem labels_of_renameKey? :
    (dictionaries.labels role).rename? source target = some (moved.labels role) := by
  cases role with
  | behavior => cases renamed
  | state =>
      obtain ⟨state, here, rfl⟩ := Option.map_eq_some_iff.mp renamed
      exact here
  | rule =>
      obtain ⟨rule, here, rfl⟩ := Option.map_eq_some_iff.mp renamed
      exact here

theorem labels_of_renameKey?_of_ne {other : Role} (differs : other ≠ role) :
    moved.labels other = dictionaries.labels other := by
  cases role with
  | behavior => cases renamed
  | state =>
      obtain ⟨state, -, rfl⟩ := Option.map_eq_some_iff.mp renamed
      cases other with
      | state => exact absurd rfl differs
      | rule | behavior => rfl
  | rule =>
      obtain ⟨rule, -, rfl⟩ := Option.map_eq_some_iff.mp renamed
      cases other with
      | rule => exact absurd rfl differs
      | state | behavior => rfl

theorem exists_label_of_renameKey? : ∃ label, (dictionaries.labels role).get? source = some label ∧
    (moved.labels role).get? target = some label := by
  have moves := labels_of_renameKey? renamed
  rcases Option.isSome_iff_exists.mp (TextMap.contains_of_rename? moves) with ⟨label, here⟩
  refine ⟨label, here, ?_⟩
  rw [TextMap.get?_of_rename? moves, if_pos rfl, here]

theorem get?_labels_of_renameKey? {other : Role} {name : String}
    (untouched : other = role → name ≠ source ∧ name ≠ target) :
    (moved.labels other).get? name = (dictionaries.labels other).get? name := by
  by_cases same : other = role
  · rcases untouched same with ⟨notSource, notTarget⟩
    rw [same, TextMap.get?_of_rename? (labels_of_renameKey? renamed), if_neg notTarget,
      if_neg notSource]
  · rw [labels_of_renameKey?_of_ne renamed same]

end Dictionaries

namespace Graph

variable {graph : Graph} {id other : StepId} {place : Nat}

theorem Descent.children_ne_nil {path : List Step} (descent : graph.Descent id path other) :
    graph.children id ≠ [] := by
  induction descent with
  | child member => exact List.ne_nil_of_mem member
  | deeper _ _ ih => exact ih

theorem apply_rename (here : graph.place? id = some place) (name : String) :
    graph.apply (.update id { name := some name }) =
      (.updated, graph.patchAt place { name := some name }) := by
  rw [apply, updateStep, here]
  rfl

/-- A new name of a step without children is part of no other step's name. -/
theorem WellFormed.qualifiedName_rename (wellFormed : graph.WellFormed)
    (here : graph.place? id = some place) (childless : graph.children id = []) (name : String)
    (differs : other ≠ id) :
    (graph.patchAt place { name := some name }).qualifiedName other = graph.qualifiedName other := by
  have notBelow : ¬ graph.Descends id other := fun ⟨_, descent⟩ => descent.children_ne_nil childless
  exact wellFormed.qualifiedName_patchAt here _ (wellFormed.indexed.not_reaches differs notBelow)

end Graph

namespace Project

variable {project : Project} {step : Step}

def renameStep (project : Project) (id : StepId) (name : String) : Project :=
  project.edit (.update id { name := some name })

def KeepsRole (project : Project) (step : Step) : Prop :=
  step.declaredRole.isSome ∨ (project.roles.get? step.id).isSome

/-- No other step in the role of this one has the name. Roles are those that a table is made for. -/
def NoOtherNamed (project : Project) (id : StepId) (name : String) : Prop :=
  ∀ other ∈ project.graph.ids, other ≠ id →
    project.completed.roles.roleOf other = project.completed.roles.roleOf id →
      project.graph.qualifiedName other ≠ name

theorem roleOf_completed (indexed : project.graph.Indexed) (member : step ∈ project.graph.steps) :
    project.completed.roles.roleOf step.id =
      Roles.filled project.keywords step (project.roles.get? step.id) := by
  have entry := Roles.get?_fill_of_mem project.keywords project.roles indexed member
  exact congrArg (Option.getD · .state) entry

theorem KeepsRole.filled_rename (keepsRole : project.KeepsRole step) (name : String) :
    Roles.filled project.keywords { step with name } (project.roles.get? step.id) =
      Roles.filled project.keywords step (project.roles.get? step.id) := by
  rw [Roles.filled, Roles.filled]
  cases declared : step.declaredRole with
  | some role => rfl
  | none =>
      rcases keepsRole with declares | hasEntry
      · rw [declared] at declares
        cases declares
      · rcases Option.isSome_iff_exists.mp hasEntry with ⟨role, entry⟩
        rw [entry]
        rfl

section Rename

variable (wellFormed : project.graph.WellFormed) (member : step ∈ project.graph.steps)
  (name : String)

include wellFormed member

theorem exists_graph_renameStep : ∃ place, project.graph.place? step.id = some place ∧
    (project.renameStep step.id name).graph =
      project.graph.patchAt place { name := some name } := by
  rcases wellFormed.indexed.exists_place (Graph.mem_ids.mpr ⟨step, member, rfl⟩) with ⟨place, here⟩
  exact ⟨place, here, congrArg Prod.snd (Graph.apply_rename here name)⟩

theorem roleOf_renameStep (keepsRole : project.KeepsRole step) {id : StepId}
    (isStep : id ∈ project.graph.ids) :
    (project.renameStep step.id name).completed.roles.roleOf id =
      project.completed.roles.roleOf id := by
  rcases exists_graph_renameStep wellFormed member name with ⟨place, here, patched⟩
  have indexed := wellFormed.indexed
  have indexedToo : (project.renameStep step.id name).graph.Indexed :=
    patched ▸ indexed.patchAt place _
  rcases Graph.mem_ids.mp isStep with ⟨other, isOther, rfl⟩
  have inside : (if other.id = step.id then { other with name } else other) ∈
      (project.renameStep step.id name).graph.steps := by
    rw [patched, indexed.steps_patchAt here]
    exact List.mem_map_of_mem isOther
  rw [roleOf_completed indexed isOther]
  by_cases same : other.id = step.id
  · have found := indexed.step?_eq_some_iff.mpr ⟨isOther, same⟩
    obtain rfl : other = step :=
      Option.some.inj (found.symm.trans (indexed.step?_eq_some_iff.mpr ⟨member, rfl⟩))
    rw [if_pos rfl] at inside
    exact (roleOf_completed indexedToo inside).trans (keepsRole.filled_rename name)
  · rw [if_neg same] at inside
    exact roleOf_completed indexedToo inside

theorem samePaths_renameStep (keepsRole : project.KeepsRole step) (dictionaries : Dictionaries) :
    project.completed.SamePaths
      ((project.renameStep step.id name).perform (.setDictionaries dictionaries)).completed := by
  rcases exists_graph_renameStep wellFormed member name with ⟨place, here, patched⟩
  exact {
    ids := (congrArg Graph.ids patched).trans (Graph.ids_patchAt project.graph place _)
    connections := (congrArg Graph.connections patched : _)
    roles := fun _ => roleOf_renameStep wellFormed member name keepsRole }

theorem sameCells_migrated (childless : project.graph.children step.id = [])
    (keepsRole : project.KeepsRole step)
    (free : project.NoOtherNamed step.id (project.graph.qualifiedName step.id))
    (freeToo : project.NoOtherNamed step.id
      ((project.renameStep step.id name).graph.qualifiedName step.id))
    {moved : Dictionaries}
    (migrated : project.dictionaries.renameKey? (project.completed.roles.roleOf step.id)
      (project.graph.qualifiedName step.id)
      ((project.renameStep step.id name).graph.qualifiedName step.id) = some moved) :
    project.completed.SameCells
      ((project.renameStep step.id name).perform (.setDictionaries moved)).completed := by
  refine ⟨samePaths_renameStep wellFormed member name keepsRole moved, ?_⟩
  intro id isStep _
  by_cases same : id = step.id
  · rcases Dictionaries.exists_label_of_renameKey? migrated with ⟨label, before, after⟩
    rw [same]
    refine ⟨after.trans before.symm, ?_⟩
    intro missing
    cases missing.symm.trans before
  · have sameName : (project.renameStep step.id name).graph.qualifiedName id =
        project.graph.qualifiedName id := by
      rcases exists_graph_renameStep wellFormed member name with ⟨place, here, patched⟩
      rw [patched]
      exact wellFormed.qualifiedName_rename here childless name same
    refine ⟨?_, fun _ => sameName⟩
    calc
      _ = (moved.labels _).get? (project.graph.qualifiedName id) := congrArg _ sameName
      _ = _ := Dictionaries.get?_labels_of_renameKey? migrated fun sameRole =>
        ⟨free id isStep same sameRole, freeToo id isStep same sameRole⟩

end Rename

/-- A step without children whose role does not come from its name can be renamed without a change
to the table, if its label moves along and no other step in its role has the one name or the
other. -/
theorem compile_migrated (reachable : project.Reachable) (member : step ∈ project.graph.steps)
    (childless : project.graph.children step.id = []) (keepsRole : project.KeepsRole step)
    (name : String) (free : project.NoOtherNamed step.id (project.graph.qualifiedName step.id))
    (freeToo : project.NoOtherNamed step.id
      ((project.renameStep step.id name).graph.qualifiedName step.id))
    {moved : Dictionaries}
    (migrated : project.dictionaries.renameKey? (project.completed.roles.roleOf step.id)
      (project.graph.qualifiedName step.id)
      ((project.renameStep step.id name).graph.qualifiedName step.id) = some moved) :
    (project.graph.apply (.update step.id { name := some name })).1 = .updated ∧
      ∀ priority,
        ((project.renameStep step.id name).perform (.setDictionaries moved)).compileWith priority =
          project.compileWith priority := by
  have wellFormed := reachable.wellFormed
  have cells := sameCells_migrated wellFormed member name childless keepsRole free freeToo migrated
  rcases exists_graph_renameStep wellFormed member name with ⟨place, here, -⟩
  refine ⟨congrArg Prod.fst (Graph.apply_rename here name), ?_⟩
  intro priority
  exact cells.compile_eq wellFormed priority

def door : Step := { id := ⟨"step-1"⟩, name := "Door" }

def movedDoor : Dictionaries := { state := .ofList [("Portal", "DOOR"), ("Gate", "GATE")] }

/-- The door is renamed. Its name is unknown until its label has moved along. -/
theorem compile_migrated_drifted : drifted.Reachable ∧ door ∈ drifted.graph.steps ∧
    drifted.graph.children door.id = [] ∧ drifted.KeepsRole door ∧
    drifted.dictionaries.renameKey? .state "Door" "Portal" = some movedDoor ∧
    (drifted.renameStep door.id "Portal").compile.rows.map (·.source) =
      ["[UNKNOWN_STATE: Portal]", "[UNKNOWN_STATE: Knock]"] ∧
    ((drifted.renameStep door.id "Portal").perform (.setDictionaries movedDoor)).compile =
      drifted.compile := by
  have member : door ∈ drifted.graph.steps := by decide +kernel
  have childless : drifted.graph.children door.id = [] := by decide +kernel
  have keepsRole : drifted.KeepsRole door := .inr (by decide +kernel)
  have free : drifted.NoOtherNamed door.id (drifted.graph.qualifiedName door.id) := by
    rw [NoOtherNamed]
    decide +kernel
  have freeToo : drifted.NoOtherNamed door.id
      ((drifted.renameStep door.id "Portal").graph.qualifiedName door.id) := by
    rw [NoOtherNamed]
    decide +kernel
  have migrated : drifted.dictionaries.renameKey? (drifted.completed.roles.roleOf door.id)
      (drifted.graph.qualifiedName door.id)
      ((drifted.renameStep door.id "Portal").graph.qualifiedName door.id) = some movedDoor := by
    decide +kernel
  have unchanged := compile_migrated reachable_drifted member childless keepsRole "Portal" free
    freeToo migrated
  exact ⟨reachable_drifted, member, childless, keepsRole, by decide +kernel, by decide +kernel,
    unchanged.2 .standard⟩

end Project

end StepFlow
