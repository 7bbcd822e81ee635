import Mathlib.Data.List.InsertIdx
import Mathlib.Data.List.Nodup
import StepFlow.Graph.Edit

namespace StepFlow.Graph

def ids (graph : Graph) : List StepId := graph.steps.map (·.id)

def Indexed (graph : Graph) : Prop :=
  ∀ id place, graph.place? id = some place ↔ graph.ids[place]? = some id

theorem getElem?_ids (graph : Graph) (place : Nat) :
    graph.ids[place]? = (graph.steps[place]?).map (·.id) :=
  List.getElem?_map

theorem length_ids (graph : Graph) : graph.ids.length = graph.size := List.length_map _

theorem mem_ids {graph : Graph} {id : StepId} :
    id ∈ graph.ids ↔ ∃ step ∈ graph.steps, step.id = id :=
  List.mem_map

theorem ids_push (graph : Graph) (step : Step) : (graph.push step).ids = graph.ids ++ [step.id] :=
  List.map_append

theorem contains_iff_place? (graph : Graph) (id : StepId) :
    graph.contains id = true ↔ ∃ place, graph.place? id = some place :=
  Option.isSome_iff_exists

namespace Indexed

variable {graph : Graph} (indexed : graph.Indexed)

include indexed

theorem ids_nodup : graph.ids.Nodup := by
  rw [List.nodup_iff_getElem?_ne_getElem?]
  intro first second before bound same
  have inside : first < graph.ids.length := Nat.lt_trans before bound
  have here := List.getElem?_eq_getElem inside
  have left := (indexed _ first).mpr here
  have right := (indexed _ second).mpr (same ▸ here)
  have equal : first = second := Option.some.inj (left.symm.trans right)
  omega

theorem contains_iff (id : StepId) : graph.contains id = true ↔ id ∈ graph.ids := by
  rw [contains_iff_place?, List.mem_iff_getElem?]
  exact exists_congr fun place => indexed id place

theorem mem_ids_of_place? {id : StepId} {place : Nat} (here : graph.place? id = some place) :
    id ∈ graph.ids :=
  (indexed.contains_iff id).mp ((graph.contains_iff_place? id).mpr ⟨place, here⟩)

theorem exists_place {id : StepId} (isStep : id ∈ graph.ids) :
    ∃ place, graph.place? id = some place :=
  (graph.contains_iff_place? id).mp ((indexed.contains_iff id).mpr isStep)

theorem place?_eq_none_iff (id : StepId) : graph.place? id = none ↔ id ∉ graph.ids := by
  rw [← indexed.contains_iff, contains_iff_place?, not_exists, Option.eq_none_iff_forall_ne_some]

theorem step?_eq_some_iff {id : StepId} {step : Step} :
    graph.step? id = some step ↔ step ∈ graph.steps ∧ step.id = id := by
  constructor
  · intro found
    rcases Option.bind_eq_some_iff.mp found with ⟨place, here, there⟩
    have named := (indexed id place).mp here
    rw [getElem?_ids, there] at named
    exact ⟨List.mem_of_getElem? there, Option.some.inj named⟩
  · intro given
    rcases given with ⟨member, rfl⟩
    rcases List.mem_iff_getElem?.mp member with ⟨place, there⟩
    have here := (indexed step.id place).mpr (by rw [getElem?_ids, there, Option.map_some])
    rw [step?, here, Option.bind_some, there]

theorem parent?_eq_some_iff {id parent : StepId} :
    graph.parent? id = some parent ↔
      ∃ step ∈ graph.steps, step.id = id ∧ step.parent = some parent := by
  constructor
  · intro found
    rcases Option.bind_eq_some_iff.mp found with ⟨step, here, above⟩
    rcases indexed.step?_eq_some_iff.mp here with ⟨member, named⟩
    exact ⟨step, member, named, above⟩
  · intro given
    rcases given with ⟨step, member, named, above⟩
    have here := indexed.step?_eq_some_iff.mpr ⟨member, named⟩
    rw [parent?, here, Option.bind_some, above]

theorem of_same_ids {changed : Graph} (sameIndex : changed.index = graph.index)
    (sameIds : changed.ids = graph.ids) : changed.Indexed := by
  intro id place
  rw [sameIds, place?, sameIndex]
  exact indexed id place

theorem push {step : Step} (fresh : step.id ∉ graph.ids) : (graph.push step).Indexed := by
  intro id place
  have lookup : (graph.push step).place? id =
      if id = step.id then some graph.size else graph.place? id := by
    simp only [place?, Graph.push, TextMap.get?_insert, StepId.text_inj]
  rw [lookup, ids_push, ← length_ids]
  by_cases atEnd : id = step.id
  · rw [if_pos atEnd, atEnd]
    constructor
    · intro given
      cases given
      exact List.getElem?_concat_length
    · intro found
      rcases Nat.lt_or_ge place graph.ids.length with inside | outside
      · rw [List.getElem?_append_left inside] at found
        exact absurd (List.mem_of_getElem? found) fresh
      · have bound := (List.getElem?_eq_some_iff.mp found).1
        rw [List.length_append, List.length_singleton] at bound
        rw [Nat.le_antisymm outside (Nat.le_of_lt_succ bound)]
  · rw [if_neg atEnd, indexed id place]
    rcases Nat.lt_or_ge place graph.ids.length with inside | outside
    · rw [List.getElem?_append_left inside]
    · rw [List.getElem?_eq_none outside, List.getElem?_append_right outside]
      simp [List.getElem?_singleton, Ne.symm atEnd]

end Indexed

theorem get?_foldl_insert (index : TextMap Nat) (entries : List (Step × Nat))
    (distinct : (entries.map (·.1.id)).Nodup) (id : StepId) (place : Nat) :
    (entries.foldl (fun index (step, i) => index.insert step.id.text i) index).get? id.text =
        some place ↔
      (∃ step, (step, place) ∈ entries ∧ step.id = id) ∨
        id ∉ entries.map (·.1.id) ∧ index.get? id.text = some place := by
  induction entries generalizing index with
  | nil => simp
  | cons entry rest ih =>
      rcases entry with ⟨first, i⟩
      rcases List.nodup_cons.mp distinct with ⟨notLater, distinctRest⟩
      rw [List.foldl_cons, ih _ distinctRest, TextMap.get?_insert]
      simp only [List.map_cons, List.mem_cons, StepId.text_inj, Prod.mk.injEq]
      by_cases same : id = first.id
      · subst same
        have absent : ¬ ∃ step, (step, place) ∈ rest ∧ step.id = first.id := by
          intro given
          rcases given with ⟨step, member, named⟩
          exact notLater (List.mem_map.mpr ⟨(step, place), member, named⟩)
        simp only [absent, notLater, if_true, not_false_eq_true, true_and, false_or,
          not_true_eq_false, false_and, or_false, Option.some.injEq]
        constructor
        · intro same
          subst same
          exact ⟨first, .inl ⟨rfl, rfl⟩, rfl⟩
        · intro given
          rcases given with ⟨step, ⟨-, here⟩ | member, named⟩
          · exact here.symm
          · exact absurd ⟨step, member, named⟩ absent
      · have other : (∃ step, (step = first ∧ place = i ∨ (step, place) ∈ rest) ∧ step.id = id) ↔
            ∃ step, (step, place) ∈ rest ∧ step.id = id := by
          refine exists_congr fun step => and_congr_left fun named => ?_
          refine or_iff_right ?_
          intro given
          rcases given with ⟨rfl, -⟩
          exact same named.symm
        rw [if_neg same, other, or_iff_right same]

theorem get?_reindex (index : TextMap Nat) (steps : List Step) (start : Nat)
    (distinct : (steps.map (·.id)).Nodup) (id : StepId) (place : Nat) :
    (reindex index steps start).get? id.text = some place ↔
      (start ≤ place ∧ (steps[place]?).map (·.id) = some id) ∨
        id ∉ (steps.drop start).map (·.id) ∧ index.get? id.text = some place := by
  have tailIds : ((steps.drop start).zipIdx start).map (·.1.id) =
      (steps.drop start).map (·.id) := by
    rw [show (fun entry : Step × Nat => entry.1.id) = (·.id) ∘ Prod.fst from rfl,
      ← List.map_map, List.zipIdx_map_fst]
  have tailDistinct : ((steps.drop start).map (·.id)).Nodup :=
    distinct.sublist ((List.drop_sublist start steps).map _)
  rw [reindex, get?_foldl_insert _ _ (tailIds ▸ tailDistinct), tailIds]
  refine or_congr_left ?_
  simp only [List.mk_mem_zipIdx_iff_le_and_getElem?_sub, List.getElem?_drop, Option.map_eq_some_iff,
    and_assoc, exists_and_left]
  refine and_congr_right fun above => ?_
  rw [Nat.add_sub_cancel' above]

theorem getElem?_eraseIdx_iff {ids : List StepId} (distinct : ids.Nodup) {id other : StepId}
    {place i : Nat} (here : ids[place]? = some id) :
    (ids.eraseIdx place)[i]? = some other ↔
      (place ≤ i ∧ (ids.eraseIdx place)[i]? = some other) ∨
        other ∉ (ids.eraseIdx place).drop place ∧ other ≠ id ∧ ids[i]? = some other := by
  constructor
  · intro found
    by_cases moved : place ≤ i
    · exact .inl ⟨moved, found⟩
    · have before : i < place := Nat.lt_of_not_le moved
      rw [List.getElem?_eraseIdx_of_lt before] at found
      have inside : i < ids.length := (List.getElem?_eq_some_iff.mp found).1
      refine .inr ⟨?_, ?_, found⟩
      · intro later
        rcases List.mem_iff_getElem?.mp later with ⟨j, there⟩
        rw [List.getElem?_drop, List.getElem?_eraseIdx_of_ge (Nat.le_add_right place j)] at there
        have same := (List.getElem?_inj inside distinct).mp (found.trans there.symm)
        omega
      · intro same
        subst same
        have same := (List.getElem?_inj inside distinct).mp (found.trans here.symm)
        omega
  · intro given
    rcases given with ⟨-, found⟩ | ⟨notMoved, differs, found⟩
    · exact found
    · rcases Nat.lt_trichotomy i place with before | same | behind
      · rw [List.getElem?_eraseIdx_of_lt before]
        exact found
      · rw [same, here] at found
        exact absurd (Option.some.inj found).symm differs
      · refine absurd (@List.mem_of_getElem? _ _ (i - 1 - place) _ ?_) notMoved
        rw [List.getElem?_drop, List.getElem?_eraseIdx_of_ge (Nat.le_add_right ..)]
        rwa [show place + (i - 1 - place) + 1 = i by omega]

theorem Indexed.eraseIdx {graph changed : Graph} (indexed : graph.Indexed) {id : StepId}
    {place : Nat} (here : graph.place? id = some place)
    (indexAfter : changed.index =
      reindex (graph.index.erase id.text) (graph.steps.eraseIdx place) place)
    (idsAfter : changed.ids = graph.ids.eraseIdx place) : changed.Indexed := by
  have idsErased : (graph.steps.eraseIdx place).map (·.id) = graph.ids.eraseIdx place :=
    (List.eraseIdx_map ..).symm
  have distinct : ((graph.steps.eraseIdx place).map (·.id)).Nodup :=
    idsErased ▸ indexed.ids_nodup.eraseIdx place
  intro other i
  have old : (graph.index.erase id.text).get? other.text = some i ↔
      other ≠ id ∧ graph.ids[i]? = some other := by
    rw [TextMap.get?_erase, ← indexed other i, place?]
    by_cases same : other = id <;> simp [same, StepId.text_inj]
  rw [place?, indexAfter, get?_reindex _ _ _ distinct, old, ← List.getElem?_map, List.map_drop,
    idsErased, idsAfter]
  exact (getElem?_eraseIdx_iff indexed.ids_nodup ((indexed id place).mp here)).symm

theorem indexed_empty (graph : Graph) (noSteps : graph.steps = []) (noIndex : graph.index = ∅) :
    graph.Indexed := by
  intro id place
  simp [place?, ids, noSteps, noIndex]

end StepFlow.Graph
