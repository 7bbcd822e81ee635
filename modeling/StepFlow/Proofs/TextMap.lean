import Mathlib.Data.List.Basic
import StepFlow.TextMap

namespace StepFlow.TextMap

variable {α : Type}

theorem lookup_eq_some_iff {key : String} {value : α} :
    ∀ {entries : List (String × α)}, (entries.map (·.1)).Nodup →
      (entries.lookup key = some value ↔ (key, value) ∈ entries)
  | [], _ => by simp
  | (k, v) :: rest, distinct => by
      rw [List.map_cons, List.nodup_cons] at distinct
      rw [lookup_cons_eq, List.mem_cons, Prod.mk.injEq]
      by_cases same : key = k
      · subst same
        have elsewhere : (key, value) ∉ rest := fun member =>
          distinct.1 (List.mem_map.mpr ⟨(key, value), member, rfl⟩)
        simp [elsewhere, eq_comm]
      · rw [if_neg same, lookup_eq_some_iff distinct.2]
        simp [same]

theorem nodup_keys (map : TextMap α) : (map.entries.map (·.1)).Nodup :=
  List.pairwise_map.mpr (map.ascending.imp String.ne_of_lt)

theorem get?_eq_some_iff (map : TextMap α) {key : String} {value : α} :
    map.get? key = some value ↔ (key, value) ∈ map.entries := lookup_eq_some_iff map.nodup_keys

theorem get?_foldl_insert (key : String) :
    ∀ (entries : List (String × α)) (map : TextMap α), (entries.map (·.1)).Nodup →
      (entries.foldl (fun map entry => map.insert entry.1 entry.2) map).get? key =
        (entries.lookup key).or (map.get? key)
  | [], _, _ => rfl
  | (k, v) :: rest, map, distinct => by
      rw [List.map_cons, List.nodup_cons] at distinct
      rw [List.foldl_cons, get?_foldl_insert key rest _ distinct.2, get?_insert, lookup_cons_eq]
      by_cases same : key = k
      · subst same
        have none : rest.lookup key = none := by
          refine Option.eq_none_iff_forall_ne_some.mpr fun value found => distinct.1 ?_
          exact List.mem_map.mpr ⟨(key, value), (lookup_eq_some_iff distinct.2).mp found, rfl⟩
        simp [none]
      · simp [same]

theorem get?_ofList {entries : List (String × α)} (distinct : (entries.map (·.1)).Nodup)
    (key : String) : (ofList entries).get? key = entries.lookup key := by
  rw [ofList, get?_foldl_insert key entries ∅ distinct, get?_empty, Option.or_none]

theorem ofList_of_perm {map : TextMap α} {entries : List (String × α)}
    (listed : entries.Perm map.entries) : ofList entries = map := by
  have distinct : (entries.map (·.1)).Nodup := (listed.map _).nodup_iff.mpr map.nodup_keys
  refine ext_get? fun key => Option.ext fun value => ?_
  rw [get?_ofList distinct, lookup_eq_some_iff distinct, get?_eq_some_iff, listed.mem_iff]

theorem get?_of_rename? {map moved : TextMap α} {source target : String}
    (renamed : map.rename? source target = some moved) (key : String) :
    moved.get? key = if key = target then map.get? source
      else if key = source then none else map.get? key := by
  rw [rename?] at renamed
  by_cases onItself : source = target
  · rw [if_pos onItself, Option.ite_none_right_eq_some] at renamed
    obtain rfl : map = moved := Option.some.inj renamed.2
    by_cases here : key = target <;> simp [here, onItself]
  · rw [if_neg onItself, Option.ite_none_left_eq_some, Option.map_eq_some_iff] at renamed
    obtain ⟨-, value, here, rfl⟩ := renamed
    rw [get?_insert, get?_erase, here]

theorem contains_of_rename? {map moved : TextMap α} {source target : String}
    (renamed : map.rename? source target = some moved) : map.contains source = true := by
  rw [rename?] at renamed
  by_cases onItself : source = target
  · rw [if_pos onItself, Option.ite_none_right_eq_some] at renamed
    exact renamed.1
  · rw [if_neg onItself, Option.ite_none_left_eq_some, Option.map_eq_some_iff] at renamed
    obtain ⟨-, value, here, -⟩ := renamed
    rw [contains, here, Option.isSome_some]

section Keys

variable (map : TextMap α)

theorem mem_keys_iff (key : String) : key ∈ map.keys ↔ map.contains key = true := by
  rw [contains, Option.isSome_iff_exists, keys, List.mem_map]
  constructor
  · rintro ⟨entry, member, rfl⟩
    exact ⟨entry.2, map.get?_eq_some_iff.mpr member⟩
  · rintro ⟨value, here⟩
    exact ⟨(key, value), map.get?_eq_some_iff.mp here, rfl⟩

theorem size_eq_length {names : List String} (distinct : names.Nodup)
    (listed : ∀ key, map.contains key = true ↔ key ∈ names) : map.size = names.length := by
  have distinctKeys : map.keys.Nodup := map.nodup_keys
  have sameKeys : map.keys.Perm names := by
    refine (List.perm_ext_iff_of_nodup distinctKeys distinct).mpr fun key => ?_
    rw [mem_keys_iff, listed]
  rw [← sameKeys.length_eq, keys, List.length_map, size]

theorem size_insert_of_absent {key : String} (value : α) (absent : map.contains key = false) :
    (map.insert key value).size = map.size + 1 := by
  have notKey : key ∉ map.keys := by
    rw [mem_keys_iff, absent]
    exact Bool.false_ne_true
  rw [size_eq_length _ (List.nodup_cons.mpr ⟨notKey, map.nodup_keys⟩), List.length_cons, keys,
    List.length_map, size]
  intro other
  rw [List.mem_cons, mem_keys_iff, contains, contains, get?_insert]
  by_cases same : other = key <;> simp [same]

end Keys

end StepFlow.TextMap
