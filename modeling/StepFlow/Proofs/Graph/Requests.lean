import StepFlow.Proofs.Graph.Run

/-!
Connection requests over the whole of a run. What the debounce remembers is the last request that
was let through, every request since then being a repeat of it (`remembered_run`). So the requests
before one decide whether it is coalesced, whatever edits came between them, and the graph at its
moment decides whether it is granted (`request_outcome`).
-/
namespace StepFlow.Graph

def RequestAt (edits : List Edit) (place : Nat) (connection : Connection) (now : Int) : Prop :=
  edits[place]? = some (.connect connection now)

def graphAt (start : Graph) (edits : List Edit) (place : Nat) : Graph :=
  start.run (edits.take place)

def CoalescedAt (start : Graph) (edits : List Edit) (place : Nat) : Prop :=
  ∃ connection now, RequestAt edits place connection now ∧
    (graphAt start edits place).debounce.repeats connection now = true

def Edit.reading? : Edit → Option Int
  | .connect _ now => some now
  | .add _ | .update _ _ | .remove _ | .disconnect _ => none

def ClockForward (edits : List Edit) : Prop := (edits.filterMap Edit.reading?).Pairwise (· ≤ ·)

theorem ClockForward.le {edits : List Edit} (forward : ClockForward edits) {first later : Nat}
    {connection other : Connection} {reading now : Int}
    (request : RequestAt edits first connection reading) (before : first < later)
    (requestToo : RequestAt edits later other now) : reading ≤ now := by
  rcases List.getElem?_eq_some_iff.mp request with ⟨inside, here⟩
  rcases List.getElem?_eq_some_iff.mp requestToo with ⟨insideToo, there⟩
  have ordered := List.pairwise_iff_getElem.mp (List.pairwise_filterMap.mp forward) first later
    inside insideToo before
  exact ordered reading (by rw [here]; rfl) now (by rw [there]; rfl)

theorem RequestAt.unique {edits : List Edit} {place : Nat} {connection other : Connection}
    {now time : Int} (request : RequestAt edits place connection now)
    (requestToo : RequestAt edits place other time) : other = connection ∧ time = now := by
  cases request.symm.trans requestToo
  exact ⟨rfl, rfl⟩

section Prefix

variable {edits : List Edit} {count place : Nat} {connection : Connection} {now : Int}

theorem requestAt_take_iff : RequestAt (edits.take count) place connection now ↔
    place < count ∧ RequestAt edits place connection now := by
  rw [RequestAt, RequestAt, List.getElem?_take]
  by_cases inside : place < count <;> simp [inside]

theorem coalescedAt_iff (start : Graph) (request : RequestAt edits place connection now) :
    CoalescedAt start edits place ↔
      (graphAt start edits place).debounce.repeats connection now = true := by
  constructor
  · rintro ⟨other, time, requestToo, again⟩
    rcases request.unique requestToo with ⟨rfl, rfl⟩
    exact again
  · intro again
    exact ⟨connection, now, request, again⟩

theorem coalescedAt_take_iff (start : Graph) (inside : place < count) :
    CoalescedAt start (edits.take count) place ↔ CoalescedAt start edits place := by
  rw [CoalescedAt, CoalescedAt, graphAt, List.take_take, Nat.min_eq_left (Nat.le_of_lt inside),
    ← graphAt]
  simp only [requestAt_take_iff, inside, true_and]

end Prefix

theorem run_append_singleton (start : Graph) (edits : List Edit) (edit : Edit) :
    start.run (edits ++ [edit]) = ((start.run edits).apply edit).2 := by
  rw [run, List.foldl_append]
  rfl

theorem Indexed.accepts_iff {graph : Graph} (indexed : graph.Indexed) (connection : Connection) :
    graph.accepts connection = true ↔ connection.source ∈ graph.ids ∧
      connection.target ∈ graph.ids ∧ connection ∉ graph.connections := by
  rw [accepts, Bool.and_eq_true, Bool.and_eq_true, decide_eq_true_iff, indexed.contains_iff,
    indexed.contains_iff, and_assoc]

section Slot

variable (graph : Graph)

theorem admit?_eq_none_iff (debounce : Debounce) (connection : Connection) (now : Int) :
    debounce.admit? connection now = none ↔ debounce.repeats connection now = true := by
  rw [Debounce.admit?]
  split <;> simp [*]

theorem apply_repeat {connection : Connection} {now : Int}
    (again : graph.debounce.repeats connection now = true) :
    graph.apply (.connect connection now) = (.changed false, graph) := by
  rw [apply, connect, (admit?_eq_none_iff _ _ _).mpr again]

theorem apply_fresh {connection : Connection} {now : Int}
    (fresh : graph.debounce.repeats connection now = false) :
    graph.apply (.connect connection now) = (.changed (graph.accepts connection),
      { graph with
        connections := graph.connections ++ if graph.accepts connection then [connection] else []
        debounce := { graph.debounce with last := some (connection, now) } }) := by
  have admitted : graph.debounce.admit? connection now =
      some { graph.debounce with last := some (connection, now) } := by
    rw [Debounce.admit?, fresh]
    rfl
  rw [apply, connect, admitted]
  cases accepted : graph.accepts connection <;> simp

theorem exists_apply_connect (connection : Connection) (now : Int) :
    ∃ granted debounce, graph.apply (.connect connection now) = (.changed granted,
        { graph with
          connections := graph.connections ++ if granted then [connection] else []
          debounce }) ∧
      (granted = true ↔ graph.debounce.repeats connection now = false ∧
        graph.accepts connection = true) := by
  cases again : graph.debounce.repeats connection now with
  | true => exact ⟨false, graph.debounce, by simp [apply_repeat _ again], by simp⟩
  | false => exact ⟨graph.accepts connection, _, apply_fresh graph again, by simp⟩

theorem debounce_apply_of_no_request {edit : Edit} (noRequest : edit.reading? = none) :
    (graph.apply edit).2.debounce = graph.debounce := by
  have change := change_apply graph edit
  generalize (graph.apply edit).2 = after at change ⊢
  cases change with
  | repeated | declined | joined => cases noRequest
  | added | patched | refused | removed | absent | parted | unconnected => rfl

end Slot

/-- The request at the place was let through, and all requests behind it repeat it. -/
structure LastAdmitted (start : Graph) (edits : List Edit) (place : Nat) (connection : Connection)
    (reading : Int) : Prop where
  request : RequestAt edits place connection reading
  admitted : ¬ CoalescedAt start edits place
  since : ∀ between other time, place < between → RequestAt edits between other time →
    other = connection ∧ CoalescedAt start edits between

inductive Remembered (start : Graph) (edits : List Edit) : Option (Connection × Int) → Prop
  | nothing (noRequest : ∀ place connection now, ¬ RequestAt edits place connection now) :
      Remembered start edits none
  | last {place : Nat} {connection : Connection} {reading : Int}
      (last : LastAdmitted start edits place connection reading) :
      Remembered start edits (some (connection, reading))

section Snoc

variable {start : Graph} {edits : List Edit} {edit : Edit} {place : Nat}
  {connection : Connection} {now : Int}

theorem requestAt_snoc_iff : RequestAt (edits ++ [edit]) place connection now ↔
    RequestAt edits place connection now ∨
      place = edits.length ∧ edit = .connect connection now := by
  rw [RequestAt, RequestAt, List.getElem?_append]
  split
  · rename_i inside
    simp [Nat.ne_of_lt inside]
  · rename_i outside
    have none : edits[place]? = none := List.getElem?_eq_none (Nat.le_of_not_lt outside)
    rw [none, List.getElem?_singleton]
    split <;> grind

theorem RequestAt.lt_length (request : RequestAt edits place connection now) :
    place < edits.length := (List.getElem?_eq_some_iff.mp request).1

theorem coalescedAt_snoc_of_lt (inside : place < edits.length) :
    CoalescedAt start (edits ++ [edit]) place ↔ CoalescedAt start edits place := by
  have same : CoalescedAt start ((edits ++ [edit]).take edits.length) place ↔
      CoalescedAt start (edits ++ [edit]) place := coalescedAt_take_iff start inside
  rw [List.take_left' rfl] at same
  exact same.symm

theorem coalescedAt_snoc_length (request : edit = .connect connection now) :
    CoalescedAt start (edits ++ [edit]) edits.length ↔
      (start.run edits).debounce.repeats connection now = true := by
  have atEnd : RequestAt (edits ++ [edit]) edits.length connection now :=
    requestAt_snoc_iff.mpr (.inr ⟨rfl, request⟩)
  rw [coalescedAt_iff start atEnd, graphAt, List.take_left' rfl]

end Snoc

theorem repeats_iff (debounce : Debounce) (request : Connection) (now : Int) :
    debounce.repeats request now = true ↔
      ∃ reading, debounce.last = some (request, reading) ∧
        (now - reading).toNat < debounce.window := by
  rw [Debounce.repeats]
  split
  · rename_i nothing
    simp [nothing]
  · rename_i previous reading last
    simp only [Bool.and_eq_true, decide_eq_true_iff, last, Option.some.injEq, Prod.mk.injEq]
    constructor
    · rintro ⟨rfl, within⟩
      exact ⟨reading, ⟨rfl, rfl⟩, within⟩
    · rintro ⟨_, ⟨same, rfl⟩, within⟩
      exact ⟨same, within⟩

section Run

variable {start : Graph} {edits : List Edit}

theorem LastAdmitted.snoc {edit : Edit} {place : Nat} {connection : Connection} {reading : Int}
    (last : LastAdmitted start edits place connection reading)
    (follows : ∀ other time, edit = .connect other time →
      other = connection ∧ (start.run edits).debounce.repeats other time = true) :
    LastAdmitted start (edits ++ [edit]) place connection reading where
  request := requestAt_snoc_iff.mpr (.inl last.request)
  admitted := mt (coalescedAt_snoc_of_lt last.request.lt_length).mp last.admitted
  since := by
    intro between other time after request
    rcases requestAt_snoc_iff.mp request with old | ⟨rfl, new⟩
    · rcases last.since between other time after old with ⟨same, coalesced⟩
      exact ⟨same, (coalescedAt_snoc_of_lt old.lt_length).mpr coalesced⟩
    · rcases follows other time new with ⟨same, again⟩
      exact ⟨same, (coalescedAt_snoc_length new).mpr again⟩

theorem Remembered.snoc_of_no_request {edit : Edit} {slot : Option (Connection × Int)}
    (remembered : Remembered start edits slot) (noRequest : edit.reading? = none) :
    Remembered start (edits ++ [edit]) slot := by
  have other {connection : Connection} {now : Int} (request : edit = .connect connection now) :
      False := by
    rw [request] at noRequest
    cases noRequest
  cases remembered with
  | nothing none =>
      refine .nothing fun place connection now request => ?_
      rcases requestAt_snoc_iff.mp request with old | ⟨-, new⟩
      · exact none place connection now old
      · exact other new
  | last last => exact .last (last.snoc fun _ _ request => (other request).elim)

theorem lastAdmitted_snoc {connection : Connection} {now : Int}
    (fresh : (start.run edits).debounce.repeats connection now = false) :
    LastAdmitted start (edits ++ [.connect connection now]) edits.length connection now where
  request := requestAt_snoc_iff.mpr (.inr ⟨rfl, rfl⟩)
  admitted := by
    rw [coalescedAt_snoc_length rfl, fresh]
    exact Bool.false_ne_true
  since := by
    intro between other time after request
    have inside := request.lt_length
    rw [List.length_append, List.length_singleton] at inside
    omega

/-- One more edit keeps the memory right: a repeat leaves it alone, any other request takes its
place. -/
theorem remembered_snoc (edit : Edit)
    (remembered : Remembered start edits (start.run edits).debounce.last) :
    Remembered start (edits ++ [edit]) (start.run (edits ++ [edit])).debounce.last := by
  rw [run_append_singleton]
  cases edit with
  | add | update | remove | disconnect =>
      rw [debounce_apply_of_no_request _ rfl]
      exact remembered.snoc_of_no_request rfl
  | connect connection now =>
      cases again : (start.run edits).debounce.repeats connection now with
      | false =>
          rw [apply_fresh _ again]
          exact .last (lastAdmitted_snoc again)
      | true =>
          rw [apply_repeat _ again]
          rcases (repeats_iff _ _ _).mp again with ⟨reading, slot, -⟩
          dsimp only
          rw [slot] at remembered ⊢
          cases remembered with
          | last last =>
              refine .last (last.snoc ?_)
              rintro _ _ ⟨⟩
              exact ⟨rfl, again⟩

theorem remembered_run (empty : start.debounce.last = none) (edits : List Edit) :
    Remembered start edits (start.run edits).debounce.last := by
  induction edits using List.reverseRecOn with
  | nil =>
      rw [show (start.run []).debounce.last = none from empty]
      exact .nothing nofun
  | append_singleton edits edit ih => exact remembered_snoc edit ih

theorem window_run (start : Graph) (edits : List Edit) :
    (start.run edits).debounce.window = start.debounce.window := by
  induction edits using List.reverseRecOn with
  | nil => rfl
  | append_singleton edits edit ih =>
      rw [run_append_singleton, ← ih]
      cases edit with
      | add | update | remove | disconnect => rw [debounce_apply_of_no_request _ rfl]
      | connect connection now =>
          cases again : (start.run edits).debounce.repeats connection now with
          | false => rw [apply_fresh _ again]
          | true => rw [apply_repeat _ again]

end Run

section Outcome

variable {start : Graph} {edits : List Edit} {place : Nat} {connection : Connection} {now : Int}

theorem LastAdmitted.unique {first : Nat} {other : Connection} {reading time : Int}
    (last : LastAdmitted start edits place connection reading)
    (lastToo : LastAdmitted start edits first other time) :
    other = connection ∧ time = reading := by
  rcases Nat.lt_trichotomy first place with before | same | after
  · exact absurd (lastToo.since place connection reading before last.request).2 last.admitted
  · subst same
    exact last.request.unique lastToo.request
  · exact absurd (last.since first other time after lastToo.request).2 lastToo.admitted

theorem last_run_iff (empty : start.debounce.last = none) (reading : Int) :
    (start.run edits).debounce.last = some (connection, reading) ↔
      ∃ place, LastAdmitted start edits place connection reading := by
  have remembered := remembered_run empty edits
  constructor
  · intro slot
    rw [slot] at remembered
    cases remembered with
    | last last => exact ⟨_, last⟩
  · rintro ⟨place, last⟩
    generalize (start.run edits).debounce.last = slot at remembered
    cases remembered with
    | nothing none => exact absurd last.request (none _ _ _)
    | last lastToo =>
        rcases last.unique lastToo with ⟨rfl, rfl⟩
        rfl

theorem lastAdmitted_take_iff {first : Nat} {reading : Int} :
    LastAdmitted start (edits.take place) first connection reading ↔
      first < place ∧ RequestAt edits first connection reading ∧ ¬ CoalescedAt start edits first ∧
        ∀ between other time, first < between → between < place →
          RequestAt edits between other time →
            other = connection ∧ CoalescedAt start edits between := by
  constructor
  · intro last
    rcases requestAt_take_iff.mp last.request with ⟨before, request⟩
    refine ⟨before, request, mt (coalescedAt_take_iff start before).mpr last.admitted, ?_⟩
    intro between other time after inside requestToo
    rcases last.since between other time after (requestAt_take_iff.mpr ⟨inside, requestToo⟩)
      with ⟨same, coalesced⟩
    exact ⟨same, (coalescedAt_take_iff start inside).mp coalesced⟩
  · rintro ⟨before, request, admitted, since⟩
    refine ⟨requestAt_take_iff.mpr ⟨before, request⟩,
      mt (coalescedAt_take_iff start before).mp admitted, ?_⟩
    intro between other time after requestToo
    rcases requestAt_take_iff.mp requestToo with ⟨inside, requestToo⟩
    rcases since between other time after inside requestToo with ⟨same, coalesced⟩
    exact ⟨same, (coalescedAt_take_iff start inside).mpr coalesced⟩

structure RequestOutcome (start : Graph) (edits : List Edit) (place : Nat) (connection : Connection)
    (now : Int) : Prop where
  coalesced_iff : CoalescedAt start edits place ↔
    ∃ first reading, first < place ∧ RequestAt edits first connection reading ∧
      now - reading < start.debounce.window ∧ ¬ CoalescedAt start edits first ∧
      ∀ between other time, first < between → between < place → RequestAt edits between other time →
        other = connection ∧ CoalescedAt start edits between
  granted_iff : ((graphAt start edits place).apply (.connect connection now)).1 = .changed true ↔
    ¬ CoalescedAt start edits place ∧ connection.source ∈ (graphAt start edits place).ids ∧
      connection.target ∈ (graphAt start edits place).ids ∧
      connection ∉ (graphAt start edits place).connections
  granted : ∀ after,
    (graphAt start edits place).apply (.connect connection now) = (.changed true, after) →
      after.steps = (graphAt start edits place).steps ∧
      after.connections = (graphAt start edits place).connections ++ [connection]
  denied : ∀ reply after,
    (graphAt start edits place).apply (.connect connection now) = (reply, after) →
      reply ≠ .changed true → reply = .changed false ∧
      after.steps = (graphAt start edits place).steps ∧
      after.connections = (graphAt start edits place).connections
  apart : ¬ CoalescedAt start edits place → ∀ first reading, first < place →
    RequestAt edits first connection reading → ¬ CoalescedAt start edits first →
    (∀ between other time, first < between → between < place →
      RequestAt edits between other time → other = connection) →
    start.debounce.window ≤ now - reading

theorem exists_lastAdmitted (empty : start.debounce.last = none)
    (request : RequestAt edits place connection now) :
    ∃ nearest other time, LastAdmitted start edits nearest other time := by
  have remembered := remembered_run empty edits
  generalize (start.run edits).debounce.last = slot at remembered
  cases remembered with
  | nothing none => exact absurd request (none _ _ _)
  | last last => exact ⟨_, _, _, last⟩

/-- A run whose clock never goes back coalesces what comes less than the window behind the last
request that was let through. -/
theorem coalescedAt_iff_lastAdmitted (empty : start.debounce.last = none)
    (forward : ClockForward edits) (request : RequestAt edits place connection now) :
    CoalescedAt start edits place ↔ ∃ first reading,
      LastAdmitted start (edits.take place) first connection reading ∧
        now - reading < start.debounce.window := by
  have soon {first : Nat} {reading : Int}
      (last : LastAdmitted start (edits.take place) first connection reading) :
      (now - reading).toNat < start.debounce.window ↔ now - reading < start.debounce.window := by
    rcases requestAt_take_iff.mp last.request with ⟨before, requestToo⟩
    have ordered := forward.le requestToo before request
    omega
  rw [coalescedAt_iff start request, repeats_iff, graphAt, window_run]
  constructor
  · rintro ⟨reading, slot, within⟩
    rcases (last_run_iff empty reading).mp slot with ⟨first, last⟩
    exact ⟨first, reading, last, (soon last).mp within⟩
  · rintro ⟨first, reading, last, within⟩
    exact ⟨reading, (last_run_iff empty reading).mpr ⟨first, last⟩, (soon last).mpr within⟩

/-- The last request that was let through is at least the window away, and an earlier one is
further away still. -/
theorem window_le_of_admitted (empty : start.debounce.last = none) (forward : ClockForward edits)
    (request : RequestAt edits place connection now) (admitted : ¬ CoalescedAt start edits place)
    {first : Nat} {reading : Int} (before : first < place)
    (earlier : RequestAt edits first connection reading)
    (admittedToo : ¬ CoalescedAt start edits first)
    (noOther : ∀ between other time, first < between → between < place →
      RequestAt edits between other time → other = connection) :
    start.debounce.window ≤ now - reading := by
  rcases exists_lastAdmitted empty (requestAt_take_iff.mpr ⟨before, earlier⟩) with
    ⟨nearest, other, time, last⟩
  rcases lastAdmitted_take_iff.mp last with ⟨inside, requestToo, -, since⟩
  have notBefore : first ≤ nearest := by
    refine Nat.le_of_not_lt fun passed => admittedToo ?_
    exact (since first connection reading passed before earlier).2
  have same : other = connection ∧ reading ≤ time := by
    rcases Nat.lt_or_eq_of_le notBefore with behind | here
    · exact ⟨noOther nearest other time behind inside requestToo,
        forward.le earlier behind requestToo⟩
    · subst here
      rcases earlier.unique requestToo with ⟨sameConnection, sameTime⟩
      exact ⟨sameConnection, Int.le_of_eq sameTime.symm⟩
  rcases same with ⟨rfl, ordered⟩
  have late : ¬ now - time < start.debounce.window := fun within =>
    admitted ((coalescedAt_iff_lastAdmitted empty forward request).mpr
      ⟨nearest, time, last, within⟩)
  omega

end Outcome

/-- Whether a request is coalesced depends on the requests before it alone, and whether it is then
granted on the graph at that moment. A coalesced request counts for nothing afterwards; one that is
let through counts even if it is denied. -/
theorem request_outcome {start : Graph} (reachable : start.Reachable)
    (empty : start.debounce.last = none) {edits : List Edit} (forward : ClockForward edits)
    {place : Nat} {connection : Connection} {now : Int}
    (request : RequestAt edits place connection now) :
    RequestOutcome start edits place connection now where
  coalesced_iff := by
    rw [coalescedAt_iff_lastAdmitted empty forward request]
    simp only [lastAdmitted_take_iff]
    constructor
    · rintro ⟨first, reading, ⟨before, requestToo, admitted, since⟩, within⟩
      exact ⟨first, reading, before, requestToo, within, admitted, since⟩
    · rintro ⟨first, reading, before, requestToo, within, admitted, since⟩
      exact ⟨first, reading, ⟨before, requestToo, admitted, since⟩, within⟩
  granted_iff := by
    have indexed : (graphAt start edits place).Indexed :=
      (reachable.wellFormed.run (edits.take place)).indexed
    rcases exists_apply_connect (graphAt start edits place) connection now with
      ⟨granted, debounce, applied, granted_iff⟩
    rw [applied, Reply.changed.injEq, granted_iff, indexed.accepts_iff,
      coalescedAt_iff start request, Bool.not_eq_true]
  granted := by
    intro after done
    rcases exists_apply_connect (graphAt start edits place) connection now with
      ⟨granted, debounce, applied, -⟩
    rw [applied] at done
    rcases Prod.mk.inj done with ⟨reply, rfl⟩
    cases reply
    exact ⟨rfl, rfl⟩
  denied := by
    intro reply after done notGranted
    rcases exists_apply_connect (graphAt start edits place) connection now with
      ⟨granted, debounce, applied, -⟩
    rw [applied] at done
    rcases Prod.mk.inj done with ⟨rfl, rfl⟩
    cases granted with
    | true => exact absurd rfl notGranted
    | false => exact ⟨rfl, rfl, List.append_nil _⟩
  apart := by
    intro admitted first reading before earlier admittedToo noOther
    exact window_le_of_admitted empty forward request admitted before earlier admittedToo noOther

def porch : Graph := (withWindow 100).run [.add { name := "Door" }, .add { name := "Hall" }]

theorem reachable_porch : porch.Reachable := ⟨withWindow 100, _, .windowed 100, rfl⟩

theorem last_porch : porch.debounce.last = none := by decide +kernel

def intoHall : Connection := ⟨⟨"step-1"⟩, ⟨"step-2"⟩, .success⟩

def porchRequests : List Edit :=
  [.connect intoHall 0,
    .connect intoHall 60,
    .connect intoHall 120,
    .disconnect intoHall,
    .connect intoHall 150,
    .connect ⟨⟨"step-2"⟩, ⟨"step-1"⟩, .failure⟩ 160,
    .connect intoHall 170]

/-- The third request is denied, since the connection is there, and yet it stands in the way of the
next one, when the connection is gone. -/
theorem request_outcome_porch : porch.Reachable ∧ porch.debounce.last = none ∧
    ClockForward porchRequests ∧ RequestAt porchRequests 4 intoHall 150 ∧
    RequestOutcome porch porchRequests 4 intoHall 150 ∧
    ¬ CoalescedAt porch porchRequests 2 ∧ CoalescedAt porch porchRequests 4 ∧
    intoHall ∉ (graphAt porch porchRequests 4).connections := by
  have forward : ClockForward porchRequests := by
    rw [ClockForward]
    decide
  have third : RequestAt porchRequests 2 intoHall 120 := rfl
  have fifth : RequestAt porchRequests 4 intoHall 150 := rfl
  have outcome := request_outcome reachable_porch last_porch forward fifth
  refine ⟨reachable_porch, last_porch, forward, fifth, outcome, ?_, ?_, ?_⟩
  · rw [coalescedAt_iff porch third]
    decide +kernel
  · rw [coalescedAt_iff porch fifth]
    decide +kernel
  · decide +kernel

end StepFlow.Graph
