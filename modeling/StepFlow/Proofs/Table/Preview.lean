import StepFlow.Proofs.Table.Carry
import StepFlow.Proofs.Table.Join
import StepFlow.Proofs.Table.Origins

/-!
Edits in a preview. The rows of a table are edited, the graph gets or loses a connection, and the
table that is compiled then takes the edits over. A connection out of a step that has others moves
no edits when it comes in, unless its own row has to share its key with a row further down
(`edits_after_connect`). When it goes, the edits of its row go to the next row of its key, and so
on down (`edits_after_disconnect`).
-/
namespace StepFlow

def Table.EditOf (edited table : Table) : Prop :=
  edited.rows.map Row.key = table.rows.map Row.key

namespace Flow

variable (flow : Flow)

def place (origin : RowOrigin) : Nat := flow.origins.idxOf origin

def rowIn (table : Table) (origin : RowOrigin) : Option Row := table.rows[flow.place origin]?

/-- Source, destination and rule list of an origin's row, which do not depend on the priority. -/
def keyOf (origin : RowOrigin) : Row.Key := (flow.rowFrom .standard origin).row.key

theorem key_rowFrom (priority : Priority) (origin : RowOrigin) :
    (flow.rowFrom priority origin).row.key = flow.keyOf origin := by
  cases origin <;> rfl

theorem rows_compile (priority : Priority) :
    (flow.compile priority).rows = (flow.rows priority).map (·.row) := rfl

theorem map_key_rows (priority : Priority) :
    (flow.compile priority).rows.map Row.key = flow.origins.map flow.keyOf := by
  calc
    _ = (flow.origins.map (flow.rowFrom priority)).map fun generated => generated.row.key := by
      rw [rows_compile, rows_eq_map_origins, List.map_map]
      rfl
    _ = flow.origins.map flow.keyOf := by
      rw [List.map_map]
      exact List.map_congr_left fun origin _ => flow.key_rowFrom priority origin

theorem rows_carryEdits (table edited : Table) :
    (table.carryEdits edited).1.rows = (Row.carryEdits edited.rows table.rows).1 := rfl

variable {flow}

theorem place_eq (distinct : flow.origins.Nodup) {origin : RowOrigin} {place : Nat}
    (here : flow.origins[place]? = some origin) : flow.place origin = place := by
  obtain ⟨inside, rfl⟩ := List.getElem?_eq_some_iff.mp here
  exact distinct.idxOf_getElem place inside

theorem keyOf_parted {connection : Connection} (distinct : flow.graph.connections.Nodup)
    (isState : flow.hasRole .state connection.source = true) :
    (flow.parted connection).keyOf = flow.keyOf := by
  funext origin
  rw [keyOf, keyOf, rowFrom_parted distinct isState]

structure PartedEdits (before after : Flow) (connection : Connection) (edited carried : Table) :
    Prop where
  stored : .connection connection ∈ before.origins
  origins : after.origins = before.origins.erase (.connection connection)
  lengths : edited.rows.length = before.origins.length ∧
    carried.rows.length = after.origins.length
  /-- In front of the connection, and wherever the key is another one, all rows are the same. -/
  kept : ∀ origin ∈ after.origins, ∀ own gone, before.rowIn edited origin = some own →
    before.rowIn edited (.connection connection) = some gone →
    before.place origin < before.place (.connection connection) ∨ own.key ≠ gone.key →
    after.rowIn carried origin = some own
  /-- Behind it, a row of its key becomes the one of that key before it. -/
  moved : ∀ origin ∈ after.origins, ∀ own gone, before.rowIn edited origin = some own →
    before.rowIn edited (.connection connection) = some gone →
    before.place (.connection connection) < before.place origin → own.key = gone.key →
    ∃ nearest, Row.LastBefore (edited.rows.map Row.key) (before.place origin) nearest ∧
      after.rowIn carried origin = edited.rows[nearest]?

theorem erase_middle {α : Type} [DecidableEq α] {front back : List α} {a : α}
    (distinct : (front ++ a :: back).Nodup) : (front ++ a :: back).erase a = front ++ back := by
  rw [List.nodup_middle, List.nodup_cons] at distinct
  have notInFront : a ∉ front := fun inside => distinct.1 (List.mem_append_left back inside)
  rw [List.erase_append_right _ notInFront, List.erase_cons_head]

structure PartedAt (before after : Flow) (connection : Connection) (edited carried : Table)
    (front back : List RowOrigin) (above : List Row) (gone : Row) (below : List Row) : Prop where
  distinct : before.origins.Nodup
  earlier : before.origins = front ++ .connection connection :: back
  later : after.origins = front ++ back
  edited : edited.rows = above ++ gone :: below
  carried : carried.rows = above ++ Row.movedUp gone below
  lengthAbove : above.length = front.length
  lengthBelow : below.length = back.length

namespace PartedAt

variable {before after : Flow} {connection : Connection} {edited carried : Table}
  {front back : List RowOrigin} {above : List Row} {gone : Row} {below : List Row}
  (parted : PartedAt before after connection edited carried front back above gone below)

include parted

theorem distinct_later : after.origins.Nodup := by
  have distinct := parted.distinct
  rw [parted.earlier, List.nodup_middle, List.nodup_cons] at distinct
  exact parted.later ▸ distinct.2

theorem place_connection : before.place (.connection connection) = front.length := by
  apply place_eq parted.distinct
  simp [parted.earlier]

theorem place_front {origin : RowOrigin} {place : Nat} (here : front[place]? = some origin) :
    before.place origin = place ∧ after.place origin = place := by
  have inside : place < front.length := (List.getElem?_eq_some_iff.mp here).1
  constructor
  · apply place_eq parted.distinct
    rw [parted.earlier, List.getElem?_append_left inside, here]
  · apply place_eq parted.distinct_later
    rw [parted.later, List.getElem?_append_left inside, here]

theorem place_back {origin : RowOrigin} {place : Nat} (here : back[place]? = some origin) :
    before.place origin = front.length + (place + 1) ∧
      after.place origin = front.length + place := by
  constructor
  · apply place_eq parted.distinct
    rw [parted.earlier, List.getElem?_append_right (Nat.le_add_right _ _), Nat.add_sub_cancel_left,
      List.getElem?_cons_succ, here]
  · apply place_eq parted.distinct_later
    rw [parted.later, List.getElem?_append_right (Nat.le_add_right _ _), Nat.add_sub_cancel_left,
      here]

theorem rowIn_connection : before.rowIn edited (.connection connection) = some gone := by
  rw [rowIn, parted.place_connection, parted.edited, ← parted.lengthAbove]
  simp

theorem rowIn_front {origin : RowOrigin} {place : Nat} (here : front[place]? = some origin) :
    after.rowIn carried origin = before.rowIn edited origin := by
  obtain ⟨placed, placedToo⟩ := parted.place_front here
  have inside : place < above.length := by
    rw [parted.lengthAbove]
    exact (List.getElem?_eq_some_iff.mp here).1
  rw [rowIn, rowIn, placed, placedToo, parted.edited, parted.carried,
    List.getElem?_append_left inside, List.getElem?_append_left inside]

theorem rowIn_back {origin : RowOrigin} {place : Nat} (here : back[place]? = some origin) :
    before.rowIn edited origin = below[place]? ∧
      after.rowIn carried origin = (Row.movedUp gone below)[place]? := by
  obtain ⟨placed, placedToo⟩ := parted.place_back here
  rw [rowIn, rowIn, placed, placedToo, parted.edited, parted.carried, ← parted.lengthAbove,
    List.getElem?_append_right (Nat.le_add_right _ _),
    List.getElem?_append_right (Nat.le_add_right _ _), Nat.add_sub_cancel_left,
    Nat.add_sub_cancel_left, List.getElem?_cons_succ]
  exact ⟨rfl, rfl⟩

theorem partedEdits : PartedEdits before after connection edited carried where
  stored := by simp [parted.earlier]
  origins := by
    rw [parted.later, parted.earlier, erase_middle (parted.earlier ▸ parted.distinct)]
  lengths := by
    have sameLength := congrArg List.length (Row.map_key_movedUp gone below)
    rw [List.length_map, List.length_map] at sameLength
    simp [parted.edited, parted.earlier, parted.carried, parted.later, parted.lengthAbove,
      parted.lengthBelow, sameLength]
  kept := by
    intro origin member own other itsRow itsGone apart
    obtain rfl := Option.some.inj (itsGone.symm.trans parted.rowIn_connection)
    rw [parted.later] at member
    rcases List.mem_append.mp member with inFront | inBack
    · obtain ⟨place, here⟩ := List.mem_iff_getElem?.mp inFront
      exact (parted.rowIn_front here).trans itsRow
    · obtain ⟨place, here⟩ := List.mem_iff_getElem?.mp inBack
      obtain ⟨wasRow, isRow⟩ := parted.rowIn_back here
      have differs : own.key ≠ other.key := by
        refine apart.resolve_left ?_
        rw [(parted.place_back here).1, parted.place_connection]
        omega
      exact isRow.trans (Row.movedUp_of_ne (wasRow.symm.trans itsRow) differs)
  moved := by
    intro origin member own other itsRow itsGone behind same
    obtain rfl := Option.some.inj (itsGone.symm.trans parted.rowIn_connection)
    rw [parted.later] at member
    rcases List.mem_append.mp member with inFront | inBack
    · -- impossible, since the connection stands behind
      obtain ⟨place, here⟩ := List.mem_iff_getElem?.mp inFront
      have inside := (List.getElem?_eq_some_iff.mp here).1
      rw [(parted.place_front here).1, parted.place_connection] at behind
      omega
    · obtain ⟨place, here⟩ := List.mem_iff_getElem?.mp inBack
      obtain ⟨wasRow, isRow⟩ := parted.rowIn_back here
      obtain ⟨nearest, last, moved⟩ := Row.movedUp_of_eq (wasRow.symm.trans itsRow) same
      refine ⟨front.length + nearest, ?_, ?_⟩
      · rw [(parted.place_back here).1, parted.edited, List.map_append, ← parted.lengthAbove]
        simpa using last.append (above.map Row.key)
      · rw [isRow, moved, parted.edited, ← parted.lengthAbove,
          List.getElem?_append_right (Nat.le_add_right _ _), Nat.add_sub_cancel_left]

end PartedAt

theorem exists_partedAt {connection : Connection} {edited : Table} {priority : Priority}
    (wellFormed : flow.graph.WellFormed) (stored : connection ∈ flow.graph.connections)
    (isState : flow.hasRole .state connection.source = true)
    (another : ∃ other ∈ flow.graph.outgoing connection.source, other ≠ connection)
    (edits : edited.EditOf (flow.compile priority)) :
    ∃ front back above gone below, PartedAt flow (flow.parted connection) connection edited
      (((flow.parted connection).compile priority).carryEdits edited).1
      front back above gone below := by
  have distinct := nodup_origins wellFormed
  obtain ⟨front, back, split⟩ := List.append_of_mem
    (connection_mem_origins stored ⟨(wellFormed.endsExist connection stored).1, isState⟩)
  have later : (flow.parted connection).origins = front ++ back := by
    rw [origins_parted wellFormed another, split, erase_middle (split ▸ distinct)]
  have keys : edited.rows.map Row.key = flow.origins.map flow.keyOf :=
    edits.trans (flow.map_key_rows priority)
  rw [split, List.map_append, List.map_cons] at keys
  obtain ⟨above, others, splitRows, keysAbove, otherKeys⟩ := List.map_eq_append_iff.mp keys
  obtain ⟨gone, below, rfl, -, keysBelow⟩ := List.map_eq_cons_iff.mp otherKeys
  have left : ((flow.parted connection).compile priority).rows.map Row.key =
      (above ++ below).map Row.key := by
    calc
      _ = (flow.parted connection).origins.map (flow.parted connection).keyOf :=
        map_key_rows _ priority
      _ = (front ++ back).map flow.keyOf := by
        rw [later, keyOf_parted wellFormed.distinctConnections isState]
      _ = (above ++ below).map Row.key := by
        rw [List.map_append, List.map_append, keysAbove, keysBelow]
  refine ⟨front, back, above, gone, below, distinct, split, later, splitRows, ?_, ?_, ?_⟩
  · rw [rows_carryEdits, splitRows, Row.carryEdits_remove left]
  · simpa using congrArg List.length keysAbove
  · simpa using congrArg List.length keysBelow

/-- Edits stay with their connections and terminal states when a state loses one connection of
several, but for those behind the connection whose rows are the same as its own up to the edits. -/
theorem edits_after_disconnect {graph after : Graph} (reachable : graph.Reachable)
    {connection : Connection}
    (gone : graph.apply (.disconnect connection) = (.changed true, after))
    (keywords : Keywords) (roles : Option Roles) (dictionaries : Option Dictionaries)
    (priority : Priority)
    (isState : (complete graph keywords roles dictionaries).hasRole .state connection.source = true)
    (another : ∃ other ∈ graph.outgoing connection.source, other ≠ connection) {edited : Table}
    (edits : edited.EditOf ((complete graph keywords roles dictionaries).compile priority)) :
    PartedEdits (complete graph keywords roles dictionaries)
      (complete after keywords roles dictionaries) connection edited
      (((complete after keywords roles dictionaries).compile priority).carryEdits edited).1 := by
  obtain ⟨stored, rfl⟩ := Graph.stored_of_disconnect gone
  rw [complete_withoutConnection]
  obtain ⟨_, _, _, _, _, parted⟩ :=
    exists_partedAt reachable.wellFormed stored isState another edits
  exact parted.partedEdits

def doorEdits : List Graph.Edit :=
  [.add { name := "Door", declaredRole := some .state },
    .add { name := "Hall", declaredRole := some .state },
    .add { name := "Cellar", declaredRole := some .state },
    .connect ⟨⟨"step-1"⟩, ⟨"step-3"⟩, .success⟩ 0,
    .connect ⟨⟨"step-1"⟩, ⟨"step-2"⟩, .success⟩ 600,
    .connect ⟨⟨"step-1"⟩, ⟨"step-2"⟩, .failure⟩ 1200]

def door : Graph := Graph.run {} doorEdits

def doorFlow : Flow := complete door .standard none none

def doorOpens : Connection := ⟨⟨"step-1"⟩, ⟨"step-2"⟩, .success⟩

def doorStuck : Connection := ⟨⟨"step-1"⟩, ⟨"step-2"⟩, .failure⟩

def doorParted : Graph := (door.apply (.disconnect doorOpens)).2

def doorPartedFlow : Flow := complete doorParted .standard none none

def doorTable : Table where
  rows :=
    [⟨"Door", "Cellar", "", 10, "light"⟩,
      ⟨"Door", "Hall", "", 20, "open"⟩,
      ⟨"Door", "Hall", "", 30, "push"⟩,
      ⟨"Hall", "", "", 50, ""⟩,
      ⟨"Cellar", "", "", 50, "dark"⟩]

def doorCarried : Table := ((doorPartedFlow.compile .standard).carryEdits doorTable).1

theorem door_parted : door.apply (.disconnect doorOpens) = (.changed true, doorParted) := by
  have done : (door.apply (.disconnect doorOpens)).1 = .changed true := by decide +kernel
  exact Prod.ext done rfl

theorem doorTable_editOf : doorTable.EditOf (doorFlow.compile .standard) := by
  rw [Table.EditOf]
  decide +kernel

theorem edits_after_disconnect_door : door.Reachable ∧
    door.apply (.disconnect doorOpens) = (.changed true, doorParted) ∧
    doorTable.EditOf (doorFlow.compile .standard) ∧
    PartedEdits doorFlow doorPartedFlow doorOpens doorTable doorCarried ∧
    doorCarried.rows =
      [⟨"Door", "Cellar", "", 10, "light"⟩,
        ⟨"Door", "Hall", "", 20, "open"⟩,
        ⟨"Hall", "", "", 50, ""⟩,
        ⟨"Cellar", "", "", 50, "dark"⟩] := by
  have reachable : door.Reachable := ⟨{}, doorEdits, .empty, rfl⟩
  refine ⟨reachable, door_parted, doorTable_editOf, ?_, by decide +kernel⟩
  exact edits_after_disconnect reachable door_parted .standard none none .standard
    (by decide +kernel) ⟨doorStuck, by decide +kernel, by decide⟩ doorTable_editOf

/-- An edit can come to stand at another connection than the one that it was made for. -/
theorem edits_moved_door : door.Reachable ∧
    door.apply (.disconnect doorOpens) = (.changed true, doorParted) ∧
    doorFlow.hasRole .state doorOpens.source = true ∧
    (∃ other ∈ door.outgoing doorOpens.source, other ≠ doorOpens) ∧
    doorTable.EditOf (doorFlow.compile .standard) ∧
    ¬ ∀ origin ∈ doorPartedFlow.origins, ∀ own row, doorFlow.rowIn doorTable origin = some own →
      doorPartedFlow.rowIn doorCarried origin = some row →
      row.priority = own.priority ∧ row.operation = own.operation := by
  refine ⟨⟨{}, doorEdits, .empty, rfl⟩, door_parted, by decide +kernel,
    ⟨doorStuck, by decide +kernel, by decide⟩, doorTable_editOf, fun all => ?_⟩
  have survives : .connection doorStuck ∈ doorPartedFlow.origins := by decide +kernel
  have own : doorFlow.rowIn doorTable (.connection doorStuck) =
      some ⟨"Door", "Hall", "", 30, "push"⟩ := by decide +kernel
  have row : doorPartedFlow.rowIn doorCarried (.connection doorStuck) =
      some ⟨"Door", "Hall", "", 20, "open"⟩ := by decide +kernel
  have same := (all _ survives _ _ own row).1
  revert same
  decide

structure JoinedEdits (before after : Flow) (connection : Connection) (priority : Priority)
    (edited : Table) (carried : Table × Nat) : Prop where
  count : carried.2 = edited.rows.length
  untouched : before.hasRole .state connection.source = false → carried.1.rows = edited.rows
  /-- The row comes in without edits, right behind the last one of its state. -/
  inserted : before.hasRole .state connection.source = true →
    ∃ front last back, before.rows priority = front ++ last :: back ∧
      last.source = connection.source ∧
      (∀ generated ∈ back, generated.source ≠ connection.source) ∧
      ∃ new, new = (after.rowOf priority connection.source connection).row ∧
        new.priority = priority ∧ new.operation = "" ∧
        ((∀ row ∈ edited.rows.drop (front.length + 1), row.key ≠ new.key) →
          carried.1.rows = edited.rows.take (front.length + 1) ++
            new :: edited.rows.drop (front.length + 1))

theorem joinedEdits {connection : Connection} {priority : Priority} {edited : Table}
    {after : Flow} (rowsAfter : RowsAfter flow after connection priority)
    (leaves : flow.graph.outgoing connection.source ≠ [])
    (edits : edited.EditOf (flow.compile priority)) :
    JoinedEdits flow after connection priority edited
      ((after.compile priority).carryEdits edited) where
  count := by
    apply Row.count_carryEdits_of_sublist
    rw [edits, rows_compile, rows_compile]
    refine List.Sublist.map _ (List.Sublist.map _ ?_)
    cases isState : flow.hasRole .state connection.source with
    | false => rw [rowsAfter.untouched isState leaves]
    | true =>
        obtain ⟨front, last, back, earlier, -, -, later⟩ := rowsAfter.inserted isState leaves
        rw [earlier, later]
        exact ((List.sublist_cons_self _ back).cons_cons last).append_left front
  untouched noState := by
    apply Row.carryEdits_of_map_key
    rw [edits, rows_compile, rows_compile, rowsAfter.untouched noState leaves]
  inserted isState := by
    obtain ⟨front, last, back, earlier, atSource, others, later⟩ := rowsAfter.inserted isState leaves
    refine ⟨front, last, back, earlier, atSource, others, _, rfl, rfl, rfl, fun apart => ?_⟩
    have keys : edited.rows.map Row.key = ((front ++ [last]).map (·.row)).map Row.key ++
        (back.map (·.row)).map Row.key := by
      calc
        _ = ((front ++ last :: back).map (·.row)).map Row.key := by
          rw [edits, rows_compile, earlier]
        _ = ((front ++ [last] ++ back).map (·.row)).map Row.key := by rw [List.append_cons]
        _ = _ := by rw [List.map_append, List.map_append]
    obtain ⟨above, below, split, keysAbove, keysBelow⟩ := List.map_eq_append_iff.mp keys
    have lengthAbove : front.length + 1 = above.length := by
      simpa using congrArg List.length keysAbove.symm
    rw [split, lengthAbove, List.drop_left] at apart
    have notBelow : (after.rowOf priority connection.source connection).row.key ∉
        below.map Row.key := by
      intro again
      obtain ⟨row, inside, same⟩ := List.mem_map.mp again
      exact apart row inside same
    calc
      _ = (Row.carryEdits (above ++ below) ((front ++ [last]).map (·.row) ++
            (after.rowOf priority connection.source connection).row :: back.map (·.row))).1 := by
        rw [rows_carryEdits, rows_compile, later, split, List.append_cons, List.map_append,
          List.map_cons]
      _ = above ++ (after.rowOf priority connection.source connection).row :: below :=
        Row.carryEdits_insert keysAbove.symm keysBelow.symm notBelow
      _ = _ := by rw [split, lengthAbove, List.take_left, List.drop_left]

/-- A further connection of a step that leads on moves no edits, unless its own row has the key of
one further down. -/
theorem edits_after_connect {graph after : Graph} (reachable : graph.Reachable)
    {connection : Connection} {now : Int}
    (added : graph.apply (.connect connection now) = (.changed true, after)) (keywords : Keywords)
    (roles : Option Roles) (dictionaries : Option Dictionaries) (priority : Priority)
    (leaves : graph.outgoing connection.source ≠ []) {edited : Table}
    (edits : edited.EditOf ((complete graph keywords roles dictionaries).compile priority)) :
    JoinedEdits (complete graph keywords roles dictionaries)
      (complete after keywords roles dictionaries) connection priority edited
      (((complete after keywords roles dictionaries).compile priority).carryEdits edited) := by
  obtain ⟨accepted, debounce, rfl⟩ := Graph.accepted_of_connect added
  rw [Graph.accepts, Bool.and_eq_true, Bool.and_eq_true] at accepted
  obtain ⟨⟨isStep, -⟩, -⟩ := accepted
  have wellFormed := reachable.wellFormed
  rw [complete_withConnection]
  refine joinedEdits (rowsAfter_joined _ _ debounce priority wellFormed.distinctIds ?_) leaves edits
  exact (wellFormed.indexed.contains_iff connection.source).mp isStep

def doorTurns : Connection := ⟨⟨"step-1"⟩, ⟨"step-1"⟩, .success⟩

def doorJoined : Graph := (door.apply (.connect doorTurns 1800)).2

def doorJoinedFlow : Flow := complete doorJoined .standard none none

theorem edits_after_connect_door : door.Reachable ∧
    door.apply (.connect doorTurns 1800) = (.changed true, doorJoined) ∧
    doorTable.EditOf (doorFlow.compile .standard) ∧
    JoinedEdits doorFlow doorJoinedFlow doorTurns .standard doorTable
      ((doorJoinedFlow.compile .standard).carryEdits doorTable) ∧
    ((doorJoinedFlow.compile .standard).carryEdits doorTable).1.rows =
      [⟨"Door", "Cellar", "", 10, "light"⟩,
        ⟨"Door", "Hall", "", 20, "open"⟩,
        ⟨"Door", "Hall", "", 30, "push"⟩,
        ⟨"Door", "Door", "", 50, ""⟩,
        ⟨"Hall", "", "", 50, ""⟩,
        ⟨"Cellar", "", "", 50, "dark"⟩] := by
  have reachable : door.Reachable := ⟨{}, doorEdits, .empty, rfl⟩
  have made : (door.apply (.connect doorTurns 1800)).1 = .changed true := by decide +kernel
  have added : door.apply (.connect doorTurns 1800) = (.changed true, doorJoined) :=
    Prod.ext made rfl
  refine ⟨reachable, added, doorTable_editOf, ?_, by decide +kernel⟩
  exact edits_after_connect reachable added .standard none none .standard
    (by decide +kernel) doorTable_editOf

end Flow

end StepFlow
