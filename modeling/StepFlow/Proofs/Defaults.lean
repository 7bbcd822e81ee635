import StepFlow.Proofs.Dictionary
import StepFlow.Proofs.Repeats
import StepFlow.Proofs.TextMap

/-!
Default labels and stale keys. Adding defaults and looking for stale keys go through the steps on
their own, and what they make of a step agrees: the names that defaults are added for are the ones
that are never stale. The count is of names and not of steps, one for each dictionary that a name is
new to (`mergeDefaults_exact`).
-/
namespace StepFlow

theorem Dictionary.size_addDefault (dictionary : Dictionary) (name : String) :
    TextMap.size (Dictionary.addDefault dictionary name).1 =
      TextMap.size dictionary + (Dictionary.addDefault dictionary name).2 := by
  rw [addDefault]
  cases here : TextMap.contains dictionary name with
  | true => rfl
  | false => exact TextMap.size_insert_of_absent dictionary name here

namespace Graph

def HasName (graph : Graph) (roles : Roles) (role : Role) (name : String) : Prop :=
  ∃ step ∈ graph.steps, roles.roleOf step.id = role ∧ graph.qualifiedName step.id = name

end Graph

namespace Dictionaries

theorem mem_liveNames_iff (graph : Graph) (roles : Roles) (role : Role) (name : String) :
    name ∈ liveNames graph roles role ↔ graph.HasName roles role name := by
  simp only [liveNames, List.mem_map, List.mem_filter, decide_eq_true_iff, and_assoc,
    Graph.HasName]

def size (dictionaries : Dictionaries) : Nat :=
  TextMap.size dictionaries.state + TextMap.size dictionaries.rule

theorem size_addDefault (dictionaries : Dictionaries) (role : Role) (name : String) :
    (dictionaries.addDefault role name).1.size =
      dictionaries.size + (dictionaries.addDefault role name).2 := by
  cases role with
  | behavior => rfl
  | state =>
      have grown := Dictionary.size_addDefault dictionaries.state name
      simp only [size, addDefault, grown]
      omega
  | rule =>
      have grown := Dictionary.size_addDefault dictionaries.rule name
      simp only [size, addDefault, grown]
      omega

theorem size_foldl_addDefault (graph : Graph) (roles : Roles) (steps : List Step)
    (start : Dictionaries × Nat) :
    let merged := steps.foldl (fun (merged, count) step =>
      let (grown, added) := merged.addDefault (roles.roleOf step.id) (graph.qualifiedName step.id)
      (grown, count + added)) start
    merged.1.size + start.2 = start.1.size + merged.2 := by
  induction steps generalizing start with
  | nil => rfl
  | cons step rest ih =>
      have later := ih ((start.1.addDefault (roles.roleOf step.id)
        (graph.qualifiedName step.id)).1, start.2 + (start.1.addDefault (roles.roleOf step.id)
          (graph.qualifiedName step.id)).2)
      have here := size_addDefault start.1 (roles.roleOf step.id) (graph.qualifiedName step.id)
      dsimp only [List.foldl_cons] at later ⊢
      omega

variable (dictionaries : Dictionaries) (graph : Graph) (roles : Roles)

theorem size_mergeDefaults : (dictionaries.mergeDefaults graph roles).1.size =
    dictionaries.size + (dictionaries.mergeDefaults graph roles).2 :=
  size_foldl_addDefault graph roles graph.steps (dictionaries, 0)

structure Unlabelled (role : Role) (names : List String) : Prop where
  distinct : names.Nodup
  mem_iff : ∀ name, name ∈ names ↔
    graph.HasName roles role name ∧ (dictionaries.labels role).contains name = false

theorem exists_unlabelled (role : Role) : ∃ names, dictionaries.Unlabelled graph roles role names := by
  refine ⟨((liveNames graph roles role).filter
    fun name => !(dictionaries.labels role).contains name).eraseDups, nodup_eraseDups _, ?_⟩
  intro name
  rw [List.mem_eraseDups, List.mem_filter, mem_liveNames_iff, Bool.not_eq_true']

variable {dictionaries graph roles}

theorem contains_mergeDefaults {role : Role} (hasLabels : role ≠ .behavior) (name : String) :
    ((dictionaries.mergeDefaults graph roles).1.labels role).contains name = true ↔
      (dictionaries.labels role).contains name = true ∨ graph.HasName roles role name := by
  rw [TextMap.contains, get?_mergeDefaults _ _ _ hasLabels, Option.isSome_or, Bool.or_eq_true,
    ← mem_liveNames_iff]
  refine or_congr Iff.rfl ?_
  by_cases live : name ∈ liveNames graph roles role <;> simp [live]

namespace Unlabelled

variable {role : Role} {names : List String}
  (unlabelled : dictionaries.Unlabelled graph roles role names) (hasLabels : role ≠ .behavior)

include unlabelled hasLabels

theorem size_labels : ((dictionaries.mergeDefaults graph roles).1.labels role).size =
    (dictionaries.labels role).size + names.length := by
  have apart : (dictionaries.labels role).keys.Disjoint names := by
    intro name key new
    rw [TextMap.mem_keys_iff, ((unlabelled.mem_iff name).mp new).2] at key
    cases key
  have distinct : ((dictionaries.labels role).keys ++ names).Nodup :=
    (TextMap.nodup_keys _).append unlabelled.distinct apart
  rw [TextMap.size_eq_length _ distinct, List.length_append, TextMap.keys, List.length_map,
    TextMap.size]
  intro name
  rw [List.mem_append, TextMap.mem_keys_iff, contains_mergeDefaults hasLabels, unlabelled.mem_iff]
  cases (dictionaries.labels role).contains name <;> simp

end Unlabelled

/-- A name that steps of both roles have is counted for both. -/
theorem count_mergeDefaults {states rules : List String}
    (unlabelledStates : dictionaries.Unlabelled graph roles .state states)
    (unlabelledRules : dictionaries.Unlabelled graph roles .rule rules) :
    (dictionaries.mergeDefaults graph roles).2 = states.length + rules.length := by
  have total := size_mergeDefaults dictionaries graph roles
  have ofStates := unlabelledStates.size_labels (by decide)
  have ofRules := unlabelledRules.size_labels (by decide)
  simp only [labels] at ofStates ofRules
  simp only [size, ofStates, ofRules] at total
  omega

theorem Covers.count_eq (covers : dictionaries.Covers graph roles) :
    (dictionaries.mergeDefaults graph roles).2 = 0 := by
  have total := size_mergeDefaults dictionaries graph roles
  rw [covers.mergeDefaults_eq] at total
  omega

structure StaleIn (graph : Graph) (roles : Roles) (role : Role) (dictionary : Dictionary)
    (stale : List String) : Prop where
  ascending : stale.Pairwise (· < ·)
  mem_iff : ∀ key, key ∈ stale ↔ dictionary.contains key = true ∧ ¬ graph.HasName roles role key

theorem StaleIn.unique {role : Role} {left right : Dictionary} {stale staleToo : List String}
    (isStale : StaleIn graph roles role left stale)
    (isStaleToo : StaleIn graph roles role right staleToo)
    (same : ∀ key, ¬ graph.HasName roles role key →
      (left.contains key = true ↔ right.contains key = true)) : stale = staleToo := by
  have members (key : String) : key ∈ stale ↔ key ∈ staleToo := by
    rw [isStale.mem_iff, isStaleToo.mem_iff, and_congr_left_iff]
    exact same key
  have distinct := isStale.ascending.imp String.ne_of_lt
  have distinctToo := isStaleToo.ascending.imp String.ne_of_lt
  refine ((List.perm_ext_iff_of_nodup distinct distinctToo).mpr members).eq_of_pairwise ?_
    isStale.ascending isStaleToo.ascending
  intro key other _ _ below above
  exact absurd below (String.lt_asymm above)

theorem staleIn_filter (role : Role) (dictionary : Dictionary) :
    StaleIn graph roles role dictionary
      (dictionary.keys.filter (· ∉ liveNames graph roles role)) where
  ascending := (List.pairwise_map.mpr dictionary.ascending).filter _
  mem_iff key := by
    rw [List.mem_filter, TextMap.mem_keys_iff, decide_eq_true_iff, mem_liveNames_iff]

theorem staleKeys_mergeDefaults :
    (dictionaries.mergeDefaults graph roles).1.staleKeys graph roles =
      dictionaries.staleKeys graph roles := by
  have same {role : Role} (hasLabels : role ≠ .behavior) (key : String)
      (notLive : ¬ graph.HasName roles role key) :
      ((dictionaries.mergeDefaults graph roles).1.labels role).contains key = true ↔
        (dictionaries.labels role).contains key = true := by
    rw [contains_mergeDefaults hasLabels, or_iff_left notLive]
  rw [staleKeys, staleKeys, StaleKeys.mk.injEq]
  exact ⟨(staleIn_filter .state _).unique (staleIn_filter .state _) (same (by decide)),
    (staleIn_filter .rule _).unique (staleIn_filter .rule _) (same (by decide))⟩

theorem staleKeys_defaults (graph : Graph) (roles : Roles) :
    (defaults graph roles).staleKeys graph roles = ⟨[], []⟩ :=
  staleKeys_mergeDefaults

structure SeededBy (before : Dictionaries) (graph : Graph) (roles : Roles) (after : Dictionaries)
    (added : Nat) : Prop where
  kept : ∀ role name label, (before.labels role).get? name = some label →
    (after.labels role).get? name = some label
  new : ∀ role, role ≠ .behavior → ∀ name, (before.labels role).get? name = none → ∀ label,
    ((after.labels role).get? name = some label ↔ label = name ∧ graph.HasName roles role name)
  growth : after.size = before.size + added
  count : ∃ states rules, before.Unlabelled graph roles .state states ∧
    before.Unlabelled graph roles .rule rules ∧ added = states.length + rules.length
  settled : after.mergeDefaults graph roles = (after, 0)
  staleKeys : after.staleKeys graph roles = before.staleKeys graph roles

/-- Adding defaults takes nothing away, gives exactly the names without a label to themselves for
labels and counts them. It leaves the stale keys as they are, which are those that name no step of
their role; default dictionaries have none. -/
theorem mergeDefaults_exact (dictionaries : Dictionaries) (graph : Graph) (roles : Roles) :
    dictionaries.SeededBy graph roles (dictionaries.mergeDefaults graph roles).1
        (dictionaries.mergeDefaults graph roles).2 ∧
      StaleIn graph roles .state dictionaries.state (dictionaries.staleKeys graph roles).state ∧
      StaleIn graph roles .rule dictionaries.rule (dictionaries.staleKeys graph roles).rule ∧
      (defaults graph roles).staleKeys graph roles = ⟨[], []⟩ := by
  have covers := covers_mergeDefaults dictionaries graph roles
  rcases dictionaries.exists_unlabelled graph roles .state with ⟨states, unlabelledStates⟩
  rcases dictionaries.exists_unlabelled graph roles .rule with ⟨rules, unlabelledRules⟩
  refine ⟨?_, staleIn_filter .state _, staleIn_filter .rule _, staleKeys_defaults graph roles⟩
  exact {
    kept := by
      intro role name label here
      cases role with
      | behavior => exact here
      | state => exact get?_mergeDefaults_of_some graph roles (by decide) here
      | rule => exact get?_mergeDefaults_of_some graph roles (by decide) here
    new := by
      intro role hasLabels name absent label
      rw [get?_mergeDefaults _ _ _ hasLabels, absent, Option.none_or, ← mem_liveNames_iff]
      by_cases live : name ∈ liveNames graph roles role <;> simp [live, eq_comm]
    growth := size_mergeDefaults dictionaries graph roles
    count := ⟨states, rules, unlabelledStates, unlabelledRules,
      count_mergeDefaults unlabelledStates unlabelledRules⟩
    settled := Prod.ext covers.mergeDefaults_eq covers.count_eq
    staleKeys := staleKeys_mergeDefaults }

end Dictionaries

end StepFlow
