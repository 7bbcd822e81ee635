import Mathlib.Algebra.BigOperators.Group.Finset.Basic
import StepFlow.Proofs.Table.Carry

namespace StepFlow

namespace Row

def edited (partner : Option Row) (row : Row) : Row := partner.elim row row.takeEdits

theorem key_of_mem_ofKey {key : Key} {rows : List Row} {row : Row} (member : row ∈ ofKey key rows) :
    row.key = key := by
  simpa using (List.mem_filter.mp member).2

theorem getElem?_ofKey_carryEdits (earlier rows : List Row) (key : Key) (i : Nat) :
    (ofKey key (carryEdits earlier rows).1)[i]? =
      (ofKey key rows)[i]?.map (edited (ofKey key earlier)[i]?) := by
  rw [ofKey_carryEdits, List.getElem?_append, List.getElem?_take, List.getElem?_drop,
    List.length_take]
  rcases Nat.lt_or_ge i (ofKey key rows).length with inside | outside
  · have here := List.getElem?_eq_getElem inside
    rcases Nat.lt_or_ge i (ofKey key earlier).length with paired | alone
    · have there := List.getElem?_eq_getElem paired
      have same : ((ofKey key earlier)[i]).key = ((ofKey key rows)[i]).key :=
        (key_of_mem_ofKey (List.getElem_mem paired)).trans
          (key_of_mem_ofKey (List.getElem_mem inside)).symm
      rw [if_pos (by omega), if_pos inside, here, there, Option.map_some, edited, Option.elim_some,
        takeEdits_eq same]
    · have none : (ofKey key earlier)[i]? = none := List.getElem?_eq_none alone
      have place : (ofKey key earlier).length +
          (i - min (ofKey key rows).length (ofKey key earlier).length) = i := by omega
      rw [if_neg (by omega), place, here, none]
      rfl
  · have none : (ofKey key rows)[i]? = none := List.getElem?_eq_none outside
    rw [if_neg (by omega), none, List.getElem?_eq_none (by omega)]
    rfl

theorem count_map_key (rows : List Row) (shared : Key) :
    (rows.map key : Multiset Key).count shared = (ofKey shared rows).length := by
  rw [← Multiset.map_coe, Multiset.count_map, Multiset.filter_coe, Multiset.coe_card, ofKey]
  congr 1
  exact List.filter_congr fun row _ => decide_eq_decide.mpr eq_comm

/-- A pair is counted for each key, as often as both tables have rows for it. -/
theorem count_carryEdits_eq_sum (earlier rows : List Row) :
    (carryEdits earlier rows).2 = ∑ key ∈ (rows.map key ++ earlier.map key).toFinset,
      min (ofKey key rows).length (ofKey key earlier).length := by
  have within : ∀ shared ∈ (rows.map key : Multiset Key) ∩ (earlier.map key : Multiset Key),
      shared ∈ (rows.map key ++ earlier.map key).toFinset := by
    intro shared member
    have inRows : shared ∈ rows.map key := (Multiset.mem_inter.mp member).1
    exact List.mem_toFinset.mpr (List.mem_append_left _ inRows)
  calc
    _ = ((rows.map key : Multiset Key) ∩ (earlier.map key : Multiset Key)).card :=
      count_carryEdits earlier rows
    _ = ∑ shared ∈ (rows.map key ++ earlier.map key).toFinset,
          ((rows.map key : Multiset Key) ∩ (earlier.map key : Multiset Key)).count shared :=
      (Multiset.sum_count_eq_card within).symm
    _ = _ := by
      refine Finset.sum_congr rfl fun shared _ => ?_
      rw [Multiset.count_inter, count_map_key, count_map_key]

end Row

namespace Table

/-- The rows of each key take the edits of the earlier rows of that key, the first from the first
and so on; nothing else about the table changes, and the count says how many rows had a partner. -/
theorem carryEdits_matches (table earlier : Table) :
    (∀ (key : Row.Key) (i : Nat), (Row.ofKey key (table.carryEdits earlier).1.rows)[i]? =
      (Row.ofKey key table.rows)[i]?.map (Row.edited (Row.ofKey key earlier.rows)[i]?)) ∧
    (table.carryEdits earlier).1.rows.map Row.key = table.rows.map Row.key ∧
    (table.carryEdits earlier).1.findings = table.findings ∧
    (table.carryEdits earlier).2 =
      ∑ key ∈ (table.rows.map Row.key ++ earlier.rows.map Row.key).toFinset,
        min (Row.ofKey key table.rows).length (Row.ofKey key earlier.rows).length := by
  refine ⟨?_, Row.map_key_carryEdits earlier.rows table.rows, rfl, ?_⟩
  · exact Row.getElem?_ofKey_carryEdits earlier.rows table.rows
  · exact Row.count_carryEdits_eq_sum earlier.rows table.rows

end Table

end StepFlow
