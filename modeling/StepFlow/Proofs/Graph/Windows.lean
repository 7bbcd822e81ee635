import StepFlow.Proofs.Graph.Requests

/-!
The debounce while nothing is removed. What it remembers is then a connection that is stored
(`RemembersStored.apply`), so the requests that it holds back would have been turned down without
it: a graph with any window answers as one without, and the two stay the same (`run_setWindow`).
-/
namespace StepFlow.Graph

/-- With a window of 0 no request is ever held back. -/
def setWindow (graph : Graph) (window : Nat) : Graph :=
  { graph with debounce := { graph.debounce with window } }

def Grows (graph : Graph) : Edit → Prop
  | .add _ | .update _ _ => True
  | .connect connection _ => connection.source ∈ graph.ids ∧ connection.target ∈ graph.ids
  | .remove _ | .disconnect _ => False

instance (graph : Graph) : ∀ edit, Decidable (graph.Grows edit)
  | .add _ | .update _ _ => .isTrue trivial
  | .connect _ _ => inferInstanceAs (Decidable (_ ∧ _))
  | .remove _ | .disconnect _ => .isFalse id

def GrowsThrough (start : Graph) (edits : List Edit) : Prop :=
  ∀ place edit, edits[place]? = some edit → (graphAt start edits place).Grows edit

instance (start : Graph) (edits : List Edit) : Decidable (GrowsThrough start edits) :=
  decidable_of_iff (∀ place : Fin edits.length,
      (graphAt start edits place).Grows edits[place]) <| by
    constructor
    · intro grows place edit here
      rcases List.getElem?_eq_some_iff.mp here with ⟨inside, rfl⟩
      exact grows ⟨place, inside⟩
    · intro grows place
      exact grows place _ (List.getElem?_eq_getElem place.isLt)

def replies (graph : Graph) : List Edit → List Reply
  | [] => []
  | edit :: rest => (graph.apply edit).1 :: (graph.apply edit).2.replies rest

def withDebounce (graph : Graph) (debounce : Debounce) : Graph := { graph with debounce }

def RemembersStored (graph : Graph) : Prop :=
  ∀ connection reading, graph.debounce.last = some (connection, reading) →
    connection ∈ graph.connections

theorem repeats_of_no_window {debounce : Debounce} (noWindow : debounce.window = 0)
    (request : Connection) (now : Int) : debounce.repeats request now = false := by
  rw [Bool.eq_false_iff]
  intro again
  rcases (repeats_iff debounce request now).mp again with ⟨reading, -, within⟩
  omega

theorem growsThrough_cons_iff {start : Graph} {edit : Edit} {rest : List Edit} :
    GrowsThrough start (edit :: rest) ↔
      start.Grows edit ∧ GrowsThrough (start.apply edit).2 rest := by
  constructor
  · intro grows
    exact ⟨grows 0 edit rfl, fun place later here => grows (place + 1) later here⟩
  · rintro ⟨first, later⟩ place other here
    cases place with
    | zero =>
        cases here
        exact first
    | succ place => exact later place other here

section Apply

variable {graph : Graph}

theorem updateStep_withDebounce (debounce : Debounce) (id : StepId) (patch : Patch) :
    (graph.withDebounce debounce).updateStep id patch =
      (graph.updateStep id patch).map (·.withDebounce debounce) := by
  have samePlace : (graph.withDebounce debounce).place? id = graph.place? id := rfl
  have sameCheck : (graph.withDebounce debounce).checkPatch id patch = graph.checkPatch id patch :=
    rfl
  rw [updateStep, updateStep, samePlace, sameCheck]
  cases graph.place? id with
  | none => rfl
  | some place => cases graph.checkPatch id patch <;> rfl

theorem apply_withDebounce {edit : Edit} (noRequest : edit.reading? = none)
    (grows : graph.Grows edit) (debounce : Debounce) :
    (graph.withDebounce debounce).apply edit =
      ((graph.apply edit).1, (graph.apply edit).2.withDebounce debounce) := by
  cases edit with
  | connect => cases noRequest
  | remove | disconnect => cases grows
  | add details => rfl
  | update id patch =>
      rw [apply, apply, updateStep_withDebounce]
      cases graph.updateStep id patch <;> rfl

theorem connections_apply {edit : Edit} (noRequest : edit.reading? = none)
    (grows : graph.Grows edit) : (graph.apply edit).2.connections = graph.connections := by
  have change := change_apply graph edit
  generalize (graph.apply edit).2 = after at change ⊢
  cases change with
  | repeated | declined | joined => cases noRequest
  | removed | absent | parted | unconnected => cases grows
  | added | patched | refused => rfl

/-- A request that is let through is either granted or turned down because the connection is there
already. -/
theorem RemembersStored.apply (stored : graph.RemembersStored) (indexed : graph.Indexed)
    {edit : Edit} (grows : graph.Grows edit) : (graph.apply edit).2.RemembersStored := by
  cases edit with
  | remove | disconnect => cases grows
  | add | update =>
      rw [RemembersStored, connections_apply rfl grows, debounce_apply_of_no_request _ rfl]
      exact stored
  | connect connection now =>
      cases again : graph.debounce.repeats connection now with
      | true =>
          rw [apply_repeat _ again]
          exact stored
      | false =>
          rw [apply_fresh _ again]
          rintro _ _ ⟨⟩
          by_cases accepted : graph.accepts connection = true
          · simp [accepted]
          · have there : connection ∈ graph.connections := by
              by_contra absent
              exact accepted ((indexed.accepts_iff connection).mpr ⟨grows.1, grows.2, absent⟩)
            exact List.mem_append_left _ there

theorem apply_of_no_window (stored : graph.RemembersStored) {edit : Edit}
    (grows : graph.Grows edit) {debounce : Debounce} (noWindow : debounce.window = 0) :
    ∃ later, later.window = 0 ∧ (graph.withDebounce debounce).apply edit =
      ((graph.apply edit).1, (graph.apply edit).2.withDebounce later) := by
  cases edit with
  | remove | disconnect => cases grows
  | add | update => exact ⟨debounce, noWindow, apply_withDebounce rfl grows debounce⟩
  | connect connection now =>
      have fresh : (graph.withDebounce debounce).debounce.repeats connection now = false :=
        repeats_of_no_window noWindow connection now
      have sameAccepts : (graph.withDebounce debounce).accepts connection =
          graph.accepts connection := rfl
      refine ⟨{ debounce with last := some (connection, now) }, noWindow, ?_⟩
      rw [apply_fresh _ fresh, sameAccepts]
      cases again : graph.debounce.repeats connection now with
      | false =>
          rw [apply_fresh _ again]
          rfl
      | true =>
          -- The request held back is for a connection that is there.
          rcases (repeats_iff _ _ _).mp again with ⟨reading, slot, -⟩
          have there := stored connection reading slot
          have refused : graph.accepts connection = false := by
            simp [accepts, there]
          rw [apply_repeat _ again, refused]
          simp [withDebounce]

end Apply

theorem run_of_no_window {graph : Graph} (wellFormed : graph.WellFormed)
    (stored : graph.RemembersStored) {edits : List Edit} (grows : GrowsThrough graph edits)
    {debounce : Debounce} (noWindow : debounce.window = 0) :
    graph.replies edits = (graph.withDebounce debounce).replies edits ∧
      ∀ count, ∃ later, graphAt (graph.withDebounce debounce) edits count =
        (graphAt graph edits count).withDebounce later := by
  induction edits generalizing graph debounce with
  | nil =>
      refine ⟨rfl, fun count => ⟨debounce, ?_⟩⟩
      rw [graphAt, graphAt, List.take_nil]
      rfl
  | cons edit rest ih =>
      rcases growsThrough_cons_iff.mp grows with ⟨first, others⟩
      rcases apply_of_no_window stored first noWindow with ⟨later, stillNone, applied⟩
      rcases ih ((change_apply graph edit).wellFormed wellFormed)
        (stored.apply wellFormed.indexed first) others stillNone with ⟨sameReplies, sameGraphs⟩
      constructor
      · rw [replies, replies, applied, sameReplies]
      · intro count
        cases count with
        | zero => exact ⟨debounce, rfl⟩
        | succ count =>
            rcases sameGraphs count with ⟨last, same⟩
            refine ⟨last, ?_⟩
            have behind (start : Graph) : graphAt start (edit :: rest) (count + 1) =
                graphAt (start.apply edit).2 rest count := rfl
            rw [behind, behind, applied]
            exact same

/-- As long as nothing is removed and requests are for steps that are there, the window makes no
difference to any answer or to any state, whatever the clock does. -/
theorem run_setWindow {start : Graph} (reachable : start.Reachable)
    (empty : start.debounce.last = none) (window : Nat) {edits : List Edit}
    (grows : GrowsThrough (start.setWindow window) edits) :
    (start.setWindow window).replies edits = (start.setWindow 0).replies edits ∧
      ∀ count,
        (graphAt (start.setWindow window) edits count).steps =
          (graphAt (start.setWindow 0) edits count).steps ∧
        (graphAt (start.setWindow window) edits count).connections =
          (graphAt (start.setWindow 0) edits count).connections := by
  have before := reachable.wellFormed
  have wellFormed : (start.setWindow window).WellFormed :=
    before.frame rfl rfl before.distinctConnections before.endsExist
  have stored : (start.setWindow window).RemembersStored := by
    intro connection reading slot
    cases empty.symm.trans slot
  have noWindow : (start.setWindow 0).debounce.window = 0 := rfl
  rcases run_of_no_window wellFormed stored grows noWindow with ⟨sameReplies, sameGraphs⟩
  refine ⟨sameReplies, fun count => ?_⟩
  rcases sameGraphs count with ⟨later, same⟩
  have plain : graphAt (start.setWindow 0) edits count =
      (graphAt (start.setWindow window) edits count).withDebounce later := same
  rw [plain]
  exact ⟨rfl, rfl⟩

def porchGrowth : List Edit :=
  [.connect intoHall 50,
    .connect intoHall 40,
    .update ⟨"step-1"⟩ { name := some "Gate" },
    .add { name := "Cellar" },
    .connect ⟨⟨"step-2"⟩, ⟨"step-3"⟩, .failure⟩ (-10),
    .connect intoHall 900,
    .connect intoHall 700]

/-- With the window the two repeats are held back, without it they are turned down. -/
theorem run_setWindow_porch : porch.Reachable ∧ porch.debounce.last = none ∧
    GrowsThrough (porch.setWindow 500) porchGrowth ∧
    (porch.setWindow 500).replies porchGrowth = (porch.setWindow 0).replies porchGrowth ∧
    (graphAt (porch.setWindow 500) porchGrowth 7).connections =
      (graphAt (porch.setWindow 0) porchGrowth 7).connections ∧
    CoalescedAt (porch.setWindow 500) porchGrowth 1 ∧
    ¬ CoalescedAt (porch.setWindow 0) porchGrowth 1 := by
  have grows : GrowsThrough (porch.setWindow 500) porchGrowth := by decide +kernel
  have second : RequestAt porchGrowth 1 intoHall 40 := rfl
  rcases run_setWindow reachable_porch last_porch 500 grows with ⟨sameReplies, sameStates⟩
  refine ⟨reachable_porch, last_porch, grows, sameReplies, (sameStates 7).2, ?_, ?_⟩
  · rw [coalescedAt_iff _ second]
    decide +kernel
  · rw [coalescedAt_iff _ second]
    decide +kernel

end StepFlow.Graph
