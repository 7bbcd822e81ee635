import Mathlib.Data.Multiset.UnionInter
import StepFlow.Table.Basic

/-!
How edits are carried over. Rows are matched key by key: in the order in which they stand, the rows
of one key become the earlier rows of that key, as long as there are any (`ofKey_carryEdits`). The
keys stay as they are, so this says what becomes of every row (`eq_of_ofKey`).
-/
namespace StepFlow.Row

abbrev Key := String × String × String

theorem takeEdits_eq {row edited : Row} (same : edited.key = row.key) :
    row.takeEdits edited = edited := by
  cases row
  cases edited
  simp only [key, Prod.mk.injEq] at same
  simp [takeEdits, same]

def ofKey (key : Key) (rows : List Row) : List Row :=
  rows.filter (·.key = key)

section OfKey

variable (key : Key) (rows : List Row)

@[simp]
theorem ofKey_nil : ofKey key [] = [] := rfl

@[simp]
theorem ofKey_append (others : List Row) :
    ofKey key (rows ++ others) = ofKey key rows ++ ofKey key others := List.filter_append ..

theorem ofKey_cons (row : Row) :
    ofKey key (row :: rows) = if row.key = key then row :: ofKey key rows else ofKey key rows := by
  simp [ofKey, List.filter_cons]

theorem ofKey_eq_nil_iff : ofKey key rows = [] ↔ key ∉ rows.map Row.key := by
  simp [ofKey, List.filter_eq_nil_iff]

theorem length_ofKey : (ofKey key rows).length = (rows.map Row.key).count key := by
  rw [ofKey, ← List.countP_eq_length_filter, List.count, List.countP_map]
  exact List.countP_congr fun row _ => by simp

end OfKey

theorem eq_of_ofKey {rows others : List Row} (sameKeys : rows.map key = others.map key)
    (sameRows : ∀ key, ofKey key rows = ofKey key others) : rows = others := by
  induction rows generalizing others with
  | nil => exact (List.map_eq_nil_iff.mp sameKeys.symm).symm
  | cons row rows ih =>
      cases others with
      | nil => cases sameKeys
      | cons other others =>
          obtain ⟨atHead, behind⟩ := List.cons.inj sameKeys
          have heads := sameRows row.key
          rw [ofKey_cons, ofKey_cons, if_pos rfl, if_pos atHead.symm] at heads
          obtain rfl := (List.cons.inj heads).1
          congr 1
          apply ih behind
          intro key
          have same := sameRows key
          rw [ofKey_cons, ofKey_cons] at same
          by_cases here : row.key = key
          · rw [if_pos here, if_pos here] at same
            exact (List.cons.inj same).2
          · rwa [if_neg here, if_neg here] at same

/-- Row by row: a row without an earlier one of its key stays, and any other becomes the first of
those. -/
inductive Carried : (earlier rows carried : List Row) → (count : Nat) → Prop
  | done (earlier : List Row) : Carried earlier [] [] 0
  | kept {earlier rows carried : List Row} {count : Nat} {row : Row}
      (unmatched : row.key ∉ earlier.map key) (rest : Carried earlier rows carried count) :
      Carried earlier (row :: rows) (row :: carried) count
  | taken {front back rows carried : List Row} {count : Nat} {row edited : Row}
      (first : row.key ∉ front.map key) (same : edited.key = row.key)
      (rest : Carried (front ++ back) rows carried count) :
      Carried (front ++ edited :: back) (row :: rows) (edited :: carried) (count + 1)

theorem carried_carryEdits (earlier rows : List Row) :
    Carried earlier rows (carryEdits earlier rows).1 (carryEdits earlier rows).2 := by
  induction rows generalizing earlier with
  | nil => exact .done earlier
  | cons row rows ih =>
      rw [carryEdits]
      cases found : earlier.find? (·.key = row.key) with
      | none =>
          refine .kept ?_ (ih earlier)
          simpa using found
      | some edited =>
          obtain ⟨matched, front, back, rfl, before⟩ := List.find?_eq_some_iff_append.mp found
          have same : edited.key = row.key := of_decide_eq_true matched
          have first : row.key ∉ front.map key := by simpa using before
          have rest : (front ++ edited :: back).eraseP (·.key = row.key) = front ++ back := by
            rw [List.eraseP_append_right _ (by simpa using before),
              List.eraseP_cons_of_pos (by simpa using same)]
          show Carried _ _ (row.takeEdits edited :: (carryEdits (List.eraseP _ _) rows).1) _
          rw [takeEdits_eq same, rest]
          exact .taken first same (ih (front ++ back))

namespace Carried

variable {earlier rows carried : List Row} {count : Nat}

theorem map_key (matched : Carried earlier rows carried count) :
    carried.map key = rows.map key := by
  induction matched with
  | done earlier => rfl
  | kept unmatched rest ih => rw [List.map_cons, List.map_cons, ih]
  | taken first same rest ih => rw [List.map_cons, List.map_cons, ih, same]

theorem ofKey_eq (matched : Carried earlier rows carried count) (key : Key) :
    ofKey key carried =
      (ofKey key earlier).take (ofKey key rows).length ++
        (ofKey key rows).drop (ofKey key earlier).length := by
  induction matched with
  | done earlier => simp
  | @kept earlier rows carried count row unmatched rest ih =>
      rw [ofKey_cons, ofKey_cons]
      by_cases here : row.key = key
      · have none : ofKey key earlier = [] := (ofKey_eq_nil_iff _ _).mpr (here ▸ unmatched)
        rw [none] at ih
        rw [if_pos here, if_pos here, ih, none]
        simp
      · rw [if_neg here, if_neg here, ih]
  | @taken front back rows carried count row edited first same rest ih =>
      rw [ofKey_append] at ih
      rw [ofKey_append, ofKey_cons, ofKey_cons, ofKey_cons, same]
      by_cases here : row.key = key
      · have none : ofKey key front = [] := (ofKey_eq_nil_iff _ _).mpr (here ▸ first)
        rw [none, List.nil_append] at ih
        rw [if_pos here, if_pos here, if_pos here, none, ih]
        simp
      · rw [if_neg here, if_neg here, if_neg here, ih]

theorem count_eq (matched : Carried earlier rows carried count) :
    count = ((rows.map key : Multiset Key) ∩ (earlier.map key : Multiset Key)).card := by
  induction matched with
  | done earlier => simp
  | @kept earlier rows carried count row unmatched rest ih =>
      have none : row.key ∉ (earlier.map key : Multiset Key) := by simpa using unmatched
      rw [List.map_cons, ← Multiset.cons_coe, Multiset.cons_inter_of_neg _ none, ih]
  | @taken front back rows carried count row edited first same rest ih =>
      have atHead : ((front ++ edited :: back).map key : Multiset Key) =
          row.key ::ₘ ((front ++ back).map key : Multiset Key) := by
        rw [List.map_append, List.map_cons, same, List.map_append]
        exact Multiset.coe_eq_coe.mpr List.perm_middle
      rw [List.map_cons, ← Multiset.cons_coe, atHead, ← Multiset.cons_inter_distrib,
        Multiset.card_cons, ih]

end Carried

section CarryEdits

variable (earlier rows : List Row)

@[simp]
theorem map_key_carryEdits : (carryEdits earlier rows).1.map key = rows.map key :=
  (carried_carryEdits earlier rows).map_key

theorem ofKey_carryEdits (key : Key) :
    ofKey key (carryEdits earlier rows).1 =
      (ofKey key earlier).take (ofKey key rows).length ++
        (ofKey key rows).drop (ofKey key earlier).length :=
  (carried_carryEdits earlier rows).ofKey_eq key

theorem count_carryEdits :
    (carryEdits earlier rows).2 =
      ((rows.map key : Multiset Key) ∩ (earlier.map key : Multiset Key)).card :=
  (carried_carryEdits earlier rows).count_eq

end CarryEdits

variable {earlier rows front back : List Row}

theorem count_carryEdits_of_sublist (still : (earlier.map key).Sublist (rows.map key)) :
    (carryEdits earlier rows).2 = earlier.length := by
  have within : (earlier.map key : Multiset Key) ≤ (rows.map key : Multiset Key) :=
    Multiset.coe_le.mpr still.subperm
  calc
    _ = ((rows.map key : Multiset Key) ⊓ (earlier.map key : Multiset Key)).card :=
      count_carryEdits earlier rows
    _ = (earlier.map key : Multiset Key).card := by rw [inf_eq_right.mpr within]
    _ = earlier.length := by rw [Multiset.coe_card, List.length_map]

theorem length_ofKey_of_map_key (same : rows.map key = earlier.map key) (key : Key) :
    (ofKey key rows).length = (ofKey key earlier).length := by
  rw [length_ofKey, length_ofKey, same]

theorem carryEdits_of_map_key (same : rows.map key = earlier.map key) :
    (carryEdits earlier rows).1 = earlier := by
  apply eq_of_ofKey
  · rw [map_key_carryEdits, same]
  · intro key
    have counts := length_ofKey_of_map_key same key
    calc
      _ = (ofKey key earlier).take (ofKey key rows).length ++
            (ofKey key rows).drop (ofKey key earlier).length := ofKey_carryEdits earlier rows key
      _ = ofKey key earlier ++ [] := by
        rw [List.take_of_length_le counts.symm.le, List.drop_of_length_le counts.le]
      _ = ofKey key earlier := List.append_nil _

theorem carryEdits_insert {new : Row} {front' back' : List Row}
    (sameFront : front'.map key = front.map key) (sameBack : back'.map key = back.map key)
    (last : new.key ∉ back.map key) :
    (carryEdits (front ++ back) (front' ++ new :: back')).1 = front ++ new :: back := by
  apply eq_of_ofKey
  · rw [map_key_carryEdits, List.map_append, List.map_cons, sameFront, sameBack, List.map_append,
      List.map_cons]
  · intro key
    have countsFront := length_ofKey_of_map_key sameFront key
    have countsBack := length_ofKey_of_map_key sameBack key
    rw [ofKey_carryEdits]
    simp only [ofKey_append, ofKey_cons]
    by_cases here : new.key = key
    · -- The new row is the last one of its key, and there is no earlier row left for it.
      have none : ofKey key back = [] := (ofKey_eq_nil_iff _ _).mpr (here ▸ last)
      rw [none, List.length_nil] at countsBack
      have none' : ofKey key back' = [] := List.length_eq_zero_iff.mp countsBack
      simp [here, none, none', countsFront]
    · simp only [if_neg here]
      rw [List.take_of_length_le (by simp [countsFront, countsBack]),
        List.drop_of_length_le (by simp [countsFront, countsBack]), List.append_nil]

structure LastBefore {α : Type} (entries : List α) (place nearest : Nat) : Prop where
  before : nearest < place
  same : entries[nearest]? = entries[place]?
  others : ∀ between, nearest < between → between < place → entries[between]? ≠ entries[place]?

namespace LastBefore

variable {α : Type} {entries : List α} {place nearest : Nat}

theorem cons (last : LastBefore entries place nearest) (entry : α) :
    LastBefore (entry :: entries) (place + 1) (nearest + 1) where
  before := Nat.succ_lt_succ last.before
  same := last.same
  others := by
    intro between after before
    cases between with
    | zero => cases after
    | succ between =>
        exact last.others between (Nat.lt_of_succ_lt_succ after) (Nat.lt_of_succ_lt_succ before)

theorem append (last : LastBefore entries place nearest) (front : List α) :
    LastBefore (front ++ entries) (front.length + place) (front.length + nearest) := by
  induction front with
  | nil => simpa using last
  | cons entry front ih =>
      simpa only [List.cons_append, List.length_cons, Nat.add_right_comm] using ih.cons entry

theorem skip {first entry : α} (last : LastBefore (first :: entries) (place + 1) nearest)
    (differs : (first :: entries)[place + 1]? ≠ some entry) :
    LastBefore (first :: entry :: entries) (place + 2)
      (match nearest with
        | 0 => 0
        | nearest + 1 => nearest + 2) := by
  cases nearest with
  | zero =>
      refine ⟨Nat.succ_pos _, last.same, ?_⟩
      intro between after before
      match between with
      | 0 => cases after
      | 1 => exact differs.symm
      | between + 2 =>
          exact last.others (between + 1) (Nat.succ_pos _) (Nat.lt_of_succ_lt_succ before)
  | succ nearest =>
      refine ⟨Nat.succ_lt_succ last.before, last.same, ?_⟩
      intro between after before
      match between with
      | 0 => cases after
      | 1 => exact differs.symm
      | between + 2 =>
          exact last.others (between + 1) (Nat.lt_of_succ_lt_succ after)
            (Nat.lt_of_succ_lt_succ before)

end LastBefore

/-- The rows behind one that is gone: a row of its key becomes the one of that key before it. -/
def movedUp (gone : Row) : List Row → List Row
  | [] => []
  | row :: rows =>
      if row.key = gone.key then gone :: movedUp row rows else row :: movedUp gone rows

@[simp]
theorem map_key_movedUp (gone : Row) (rows : List Row) :
    (movedUp gone rows).map key = rows.map key := by
  induction rows generalizing gone with
  | nil => rfl
  | cons row rows ih =>
      rw [movedUp]
      by_cases same : row.key = gone.key
      · rw [if_pos same, List.map_cons, List.map_cons, ih, same]
      · rw [if_neg same, List.map_cons, List.map_cons, ih]

theorem ofKey_movedUp (gone : Row) (rows : List Row) (key : Key) :
    ofKey key (movedUp gone rows) = (ofKey key (gone :: rows)).take (ofKey key rows).length := by
  induction rows generalizing gone with
  | nil => simp [movedUp]
  | cons row rows ih =>
      rw [movedUp]
      by_cases same : row.key = gone.key
      · rw [if_pos same]
        by_cases here : gone.key = key <;> simp [ofKey_cons, same, here, ih]
      · rw [if_neg same]
        by_cases inside : row.key = key
        · have apart : gone.key ≠ key := fun here => same (inside.trans here.symm)
          simp [ofKey_cons, inside, apart, ih]
        · by_cases here : gone.key = key <;> simp [ofKey_cons, inside, here, ih]

theorem carryEdits_remove {gone : Row} (same : rows.map key = (front ++ back).map key) :
    (carryEdits (front ++ gone :: back) rows).1 = front ++ movedUp gone back := by
  apply eq_of_ofKey
  · rw [map_key_carryEdits, same, List.map_append, List.map_append, map_key_movedUp]
  · intro key
    have counts := length_ofKey_of_map_key same key
    rw [ofKey_append, List.length_append] at counts
    have noneLeft : (ofKey key rows).length ≤ (ofKey key (front ++ gone :: back)).length := by
      rw [counts, ofKey_append, List.length_append, ofKey_cons]
      split <;> simp
    calc
      _ = (ofKey key (front ++ gone :: back)).take (ofKey key rows).length := by
        rw [ofKey_carryEdits, List.drop_of_length_le noneLeft, List.append_nil]
      _ = (ofKey key front ++ ofKey key (gone :: back)).take
            ((ofKey key front).length + (ofKey key back).length) := by rw [ofKey_append, counts]
      _ = ofKey key front ++ (ofKey key (gone :: back)).take (ofKey key back).length :=
        List.take_length_add_append _
      _ = ofKey key (front ++ movedUp gone back) := by rw [ofKey_append, ofKey_movedUp]

section MovedUp

variable {gone row : Row} {place : Nat}

theorem movedUp_of_ne (here : rows[place]? = some row) (differs : row.key ≠ gone.key) :
    (movedUp gone rows)[place]? = some row := by
  induction rows generalizing gone place with
  | nil => cases here
  | cons first rows ih =>
      rw [movedUp]
      cases place with
      | zero =>
          cases here
          rw [if_neg differs, List.getElem?_cons_zero]
      | succ place =>
          rw [List.getElem?_cons_succ] at here
          by_cases again : first.key = gone.key
          · rw [if_pos again, List.getElem?_cons_succ, ih here (again ▸ differs)]
          · rw [if_neg again, List.getElem?_cons_succ, ih here differs]

theorem movedUp_of_eq (here : rows[place]? = some row) (same : row.key = gone.key) :
    ∃ nearest, LastBefore ((gone :: rows).map key) (place + 1) nearest ∧
      (movedUp gone rows)[place]? = (gone :: rows)[nearest]? := by
  induction rows generalizing gone place with
  | nil => cases here
  | cons first rows ih =>
      rw [movedUp]
      cases place with
      | zero =>
          cases here
          refine ⟨0, ⟨Nat.one_pos, by simp [same], ?_⟩, by rw [if_pos same]; rfl⟩
          intro between after before
          omega
      | succ place =>
          rw [List.getElem?_cons_succ] at here
          -- If the first row has the key, it is the one to look back to from now on.
          by_cases again : first.key = gone.key
          · obtain ⟨nearest, last, moved⟩ := ih here (same.trans again.symm)
            refine ⟨nearest + 1, last.cons gone.key, ?_⟩
            rw [if_pos again, List.getElem?_cons_succ, moved, List.getElem?_cons_succ]
          · obtain ⟨nearest, last, moved⟩ := ih here same
            have apart : ((gone :: rows).map key)[place + 1]? ≠ some first.key := by
              simp [here, same, Ne.symm again]
            refine ⟨_, last.skip apart, ?_⟩
            rw [if_neg again, List.getElem?_cons_succ, moved]
            cases nearest <;> rfl

end MovedUp

end StepFlow.Row
