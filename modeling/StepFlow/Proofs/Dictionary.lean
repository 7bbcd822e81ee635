import Mathlib.Data.Option.Basic
import StepFlow.Dictionary

namespace StepFlow

theorem TextMap.contains_iff {α : Type} (map : TextMap α) (key : String) :
    map.contains key = true ↔ ∃ value, map.get? key = some value :=
  Option.isSome_iff_exists

theorem Dictionary.get?_addDefault (dictionary : Dictionary) (name query : String) :
    (Dictionary.addDefault dictionary name).1.get? query =
      (dictionary.get? query).or (if query = name then some query else none) := by
  rw [addDefault]
  by_cases same : query = name
  · subst same
    cases here : dictionary.get? query with
    | some label => simp [TextMap.contains, here]
    | none => simp [TextMap.contains, here, TextMap.get?_insert]
  · cases TextMap.contains dictionary name <;> simp [TextMap.get?_insert, same]

namespace Dictionaries

def labels (dictionaries : Dictionaries) : Role → Dictionary
  | .state => dictionaries.state
  | .rule => dictionaries.rule
  | .behavior => ∅

theorem labels_addDefault (dictionaries : Dictionaries) (role other : Role) (name : String)
    (hasLabels : role ≠ .behavior) :
    (dictionaries.addDefault other name).1.labels role =
      if other = role then (Dictionary.addDefault (dictionaries.labels role) name).1
      else dictionaries.labels role := by
  cases role with
  | behavior => exact absurd rfl hasLabels
  | state => cases other <;> rfl
  | rule => cases other <;> rfl

theorem get?_foldl_addDefault (graph : Graph) (roles : Roles) {role : Role}
    (hasLabels : role ≠ .behavior) (steps : List Step) (start : Dictionaries × Nat)
    (query : String) :
    ((steps.foldl (fun (merged, count) step =>
        let (grown, added) :=
          merged.addDefault (roles.roleOf step.id) (graph.qualifiedName step.id)
        (grown, count + added)) start).1.labels role).get? query =
      ((start.1.labels role).get? query).or
        (if query ∈ (steps.filter fun step => roles.roleOf step.id = role).map
          (fun step => graph.qualifiedName step.id) then some query else none) := by
  induction steps generalizing start with
  | nil => simp
  | cons step rest ih =>
      rw [List.foldl_cons, ih]
      dsimp only
      rw [labels_addDefault _ _ _ _ hasLabels]
      by_cases itsRole : roles.roleOf step.id = role
      · rw [if_pos itsRole, Dictionary.get?_addDefault, Option.or_assoc,
          List.filter_cons_of_pos (by simpa using itsRole), List.map_cons]
        congr 1
        by_cases here : query = graph.qualifiedName step.id
        · simp [here]
        · simp only [List.mem_cons, here, false_or, if_false, Option.none_or]
      · rw [if_neg itsRole, List.filter_cons_of_neg (by simpa using itsRole)]

theorem get?_mergeDefaults (dictionaries : Dictionaries) (graph : Graph) (roles : Roles)
    {role : Role} (hasLabels : role ≠ .behavior) (query : String) :
    ((dictionaries.mergeDefaults graph roles).1.labels role).get? query =
      ((dictionaries.labels role).get? query).or
        (if query ∈ liveNames graph roles role then some query else none) :=
  get?_foldl_addDefault graph roles hasLabels graph.steps (dictionaries, 0) query

theorem get?_mergeDefaults_of_some {dictionaries : Dictionaries} (graph : Graph) (roles : Roles)
    {role : Role} (hasLabels : role ≠ .behavior) {name label : String}
    (here : (dictionaries.labels role).get? name = some label) :
    ((dictionaries.mergeDefaults graph roles).1.labels role).get? name = some label := by
  rw [get?_mergeDefaults _ _ _ hasLabels, here, Option.some_or]

def Covers (dictionaries : Dictionaries) (graph : Graph) (roles : Roles) : Prop :=
  ∀ role, role ≠ .behavior → ∀ name ∈ liveNames graph roles role,
    (dictionaries.labels role).contains name = true

theorem covers_mergeDefaults (dictionaries : Dictionaries) (graph : Graph) (roles : Roles) :
    (dictionaries.mergeDefaults graph roles).1.Covers graph roles := by
  intro role hasLabels name live
  rw [TextMap.contains_iff, get?_mergeDefaults _ _ _ hasLabels, if_pos live]
  cases (dictionaries.labels role).get? name with
  | none => exact ⟨name, rfl⟩
  | some label => exact ⟨label, rfl⟩

theorem covers_defaults (graph : Graph) (roles : Roles) :
    (defaults graph roles).Covers graph roles :=
  covers_mergeDefaults {} graph roles

theorem ext_labels {left right : Dictionaries}
    (agree : ∀ role, role ≠ .behavior → ∀ name,
      (left.labels role).get? name = (right.labels role).get? name) : left = right := by
  obtain ⟨state, rule⟩ := left
  obtain ⟨state', rule'⟩ := right
  obtain rfl : state = state' := TextMap.ext_get? (agree .state (by decide))
  obtain rfl : rule = rule' := TextMap.ext_get? (agree .rule (by decide))
  rfl

theorem Covers.mergeDefaults_eq {dictionaries : Dictionaries} {graph : Graph} {roles : Roles}
    (covers : dictionaries.Covers graph roles) :
    (dictionaries.mergeDefaults graph roles).1 = dictionaries := by
  apply ext_labels
  intro role hasLabels name
  rw [get?_mergeDefaults _ _ _ hasLabels]
  by_cases live : name ∈ liveNames graph roles role
  · obtain ⟨label, here⟩ := (TextMap.contains_iff _ _).mp (covers role hasLabels name live)
    rw [here, Option.some_or]
  · rw [if_neg live, Option.or_none]

end Dictionaries

end StepFlow
