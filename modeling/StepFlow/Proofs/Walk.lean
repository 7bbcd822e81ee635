import Mathlib.Data.List.Basic
import Mathlib.Data.Nat.Find
import StepFlow.Proofs.Links

/-!
How walks end. The ending of a walk and the nodes it meets can be told from the sequence of nodes
behind its start alone, without running the walk: by its first goal, else by its end if it has one,
else by the first node that occurs in it twice.
-/
namespace StepFlow

theorem WalkEnd.goal?_eq_some_iff {α : Type} (ending : WalkEnd α) (node : α) :
    ending.goal? = some node ↔ ending = .arrived node := by
  cases ending <;> simp [goal?]

section Map

variable {α β : Type}

def WalkEnd.map (f : α → β) : WalkEnd α → WalkEnd β
  | stuck last => stuck (f last)
  | arrived goal => arrived (f goal)
  | looped repeated => looped (f repeated)

def Walk.map (f : α → β) (walk : Walk α) : Walk β := ⟨walk.met.map f, walk.ending.map f⟩

theorem WalkEnd.goal?_map (f : α → β) (ending : WalkEnd α) :
    (ending.map f).goal? = ending.goal?.map f := by
  cases ending <;> rfl

theorem Walk.map_id (walk : Walk α) : walk.map id = walk := by
  obtain ⟨met, ending⟩ := walk
  cases ending <;> simp [map, WalkEnd.map]

end Map

end StepFlow

namespace StepFlow.Links

variable {α : Type}

def FirstGoal (links : Links α) (goal : α → Bool) (start node : α) : Prop :=
  ∃ n, links.nth start n = some node ∧ goal node = true ∧
    ∀ m < n, ∀ earlier, links.nth start m = some earlier → goal earlier = false

def GoalFree (links : Links α) (goal : α → Bool) (start : α) : Prop :=
  ∀ n node, links.nth start n = some node → goal node = false

def EndsAt (links : Links α) (start last : α) : Prop :=
  ∃ n, links.nth start n = some last ∧ links.next last = none

def Endless (links : Links α) (start : α) : Prop :=
  ∀ n, ∃ node, links.nth start n = some node

def FirstRepeat (links : Links α) (start node : α) : Prop :=
  ∃ n, links.nth start n = some node ∧ (∃ m < n, links.nth start m = some node) ∧
    ∀ i < n, ∀ j < i, links.nth start j ≠ links.nth start i

section Sequence

variable {links : Links α} {goal : α → Bool} {start node other : α}

theorem FirstGoal.unique (left : links.FirstGoal goal start node)
    (right : links.FirstGoal goal start other) : node = other := by
  obtain ⟨n, here, isGoal, least⟩ := left
  obtain ⟨m, there, isGoalToo, leastToo⟩ := right
  rcases Nat.lt_trichotomy n m with before | same | behind
  · simp [leastToo n before node here] at isGoal
  · rw [same, there] at here
    exact (Option.some.inj here).symm
  · simp [least m behind other there] at isGoalToo

theorem FirstGoal.not_goalFree (first : links.FirstGoal goal start node) :
    ¬ links.GoalFree goal start := by
  intro free
  obtain ⟨n, here, isGoal, _⟩ := first
  simp [free n node here] at isGoal

theorem exists_firstGoal_iff : (∃ node, links.FirstGoal goal start node) ↔
    ∃ n node, links.nth start n = some node ∧ goal node = true := by
  classical
  constructor
  · intro first
    obtain ⟨node, n, here, isGoal, _⟩ := first
    exact ⟨n, node, here, isGoal⟩
  · intro someGoal
    obtain ⟨node, here, isGoal⟩ := Nat.find_spec someGoal
    refine ⟨node, Nat.find someGoal, here, isGoal, ?_⟩
    intro m before earlier there
    have least := Nat.find_min someGoal before
    cases isGoalToo : goal earlier with
    | false => rfl
    | true => exact absurd ⟨earlier, there, isGoalToo⟩ least

theorem le_of_ended {n m : Nat} (here : links.nth start n = some node)
    (ended : links.next node = none) (there : links.nth start m = some other) : m ≤ n := by
  by_contra behind
  have beyond : links.nth start (n + 1) = none := by rw [nth, here, Option.bind_some, ended]
  rw [links.nth_none_of_le beyond (by omega)] at there
  cases there

theorem nth_succ (links : Links α) (start : α) (n : Nat) :
    links.nth start (n + 1) = (links.next start).bind fun next => links.nth next n := by
  induction n with
  | zero => cases ended : links.next start <;> simp [nth, ended]
  | succ n ih =>
      rw [nth, ih, Option.bind_assoc]
      rfl

theorem EndsAt.of_next (ends : links.EndsAt other node) (link : links.next start = some other) :
    links.EndsAt start node := by
  obtain ⟨n, here, ended⟩ := ends
  exact ⟨n + 1, by rw [nth_succ, link, Option.bind_some, here], ended⟩

theorem EndsAt.unique (left : links.EndsAt start node) (right : links.EndsAt start other) :
    node = other := by
  obtain ⟨n, here, ended⟩ := left
  obtain ⟨m, there, endedToo⟩ := right
  have same : n = m :=
    Nat.le_antisymm (le_of_ended there endedToo here) (le_of_ended here ended there)
  rw [same, there] at here
  exact (Option.some.inj here).symm

theorem EndsAt.not_endless (ends : links.EndsAt start node) : ¬ links.Endless start := by
  intro endless
  obtain ⟨n, here, ended⟩ := ends
  obtain ⟨next, further⟩ := endless (n + 1)
  have bound := le_of_ended here ended further
  omega

theorem FirstRepeat.unique (left : links.FirstRepeat start node)
    (right : links.FirstRepeat start other) : node = other := by
  obtain ⟨n, here, ⟨i, earlier, before⟩, distinct⟩ := left
  obtain ⟨m, there, ⟨j, earlierToo, beforeToo⟩, distinctToo⟩ := right
  rcases Nat.lt_trichotomy n m with less | same | more
  · exact absurd (before.trans here.symm) (distinctToo n less i earlier)
  · rw [same, there] at here
    exact (Option.some.inj here).symm
  · exact absurd (beforeToo.trans there.symm) (distinct m more j earlierToo)

end Sequence

namespace Follows

variable {links : Links α} {goal : α → Bool} {start : α} {walk : Walk α}
  (follows : Follows links goal start walk) (startFree : goal start = false)

include follows

include startFree in
theorem goal_met {node : α} (member : node ∈ walk.met) : goal node = false := by
  obtain ⟨n, bound, here⟩ := (follows.mem_iff node).mp member
  cases n with
  | zero =>
      cases here
      exact startFree
  | succ n =>
      rw [← follows.nodes (n + 1) bound, ← List.getElem?_tail] at here
      exact follows.goalFree node (List.mem_of_getElem? here)

include startFree in
theorem firstGoal {node : α} (ended : walk.ending = .arrived node) :
    links.FirstGoal goal start node := by
  have ends := follows.ends
  rw [ended] at ends
  refine ⟨walk.met.length, ends.1, ends.2, ?_⟩
  intro m before earlier here
  exact follows.goal_met startFree ((follows.mem_iff earlier).mpr ⟨m, before, here⟩)

include startFree in
theorem goalFree_of_no_goal (noGoal : ∀ node, walk.ending ≠ .arrived node) :
    links.GoalFree goal start := by
  intro n node here
  exact follows.goal_met startFree (mem_met_of_nth follows noGoal here)

theorem endsAt {last : α} (ended : walk.ending = .stuck last) : links.EndsAt start last := by
  have ends := follows.ends
  rw [ended] at ends
  obtain ⟨n, _, here⟩ := (follows.mem_iff last).mp (List.mem_of_getLast? ends.1)
  exact ⟨n, here, (follows.nth_length ends.1).symm.trans ends.2⟩

theorem endless {repeated : α} (ended : walk.ending = .looped repeated) : links.Endless start := by
  have ends := follows.ends
  rw [ended] at ends
  intro n
  induction n with
  | zero => exact ⟨start, rfl⟩
  | succ n ih =>
      obtain ⟨node, here⟩ := ih
      have met := mem_met_of_nth follows (by simp [ended]) here
      obtain ⟨m, bound, there⟩ := (follows.mem_iff node).mp met
      have sameNext : links.nth start (n + 1) = links.nth start (m + 1) := by
        rw [nth, nth, here, there]
      rw [sameNext]
      exact links.nth_some_of_le ends.1 bound

theorem stuck_of_met {node : α} (member : node ∈ walk.met) (ended : links.next node = none) :
    walk.ending = .stuck node := by
  obtain ⟨n, bound, here⟩ := (follows.mem_iff node).mp member
  have beyond : links.nth start (n + 1) = none := by rw [nth, here, Option.bind_some, ended]
  have pastEnd : links.nth start walk.met.length = none := links.nth_none_of_le beyond bound
  have ends := follows.ends
  cases ending : walk.ending with
  | stuck last =>
      rw [ending] at ends
      obtain ⟨m, within, there⟩ := (follows.mem_iff last).mp (List.mem_of_getLast? ends.1)
      have atLast : links.next last = none := (follows.nth_length ends.1).symm.trans pastEnd
      exact congrArg _ (EndsAt.unique ⟨m, there, atLast⟩ ⟨n, here, ended⟩)
  | arrived goal =>
      rw [ending] at ends
      cases pastEnd.symm.trans ends.1
  | looped repeated =>
      rw [ending] at ends
      cases pastEnd.symm.trans ends.1

theorem firstRepeat {repeated : α} (ended : walk.ending = .looped repeated) :
    links.FirstRepeat start repeated := by
  have ends := follows.ends
  rw [ended] at ends
  obtain ⟨m, bound, there⟩ := (follows.mem_iff repeated).mp ends.2
  refine ⟨walk.met.length, ends.1, ⟨m, bound, there⟩, ?_⟩
  intro i inside j before same
  have equal := follows.eq_of_nth_eq (Nat.lt_trans before inside) inside same
  omega

end Follows

variable [DecidableEq α] (links : Links α) (goal : α → Bool) {start : α}

theorem walk_arrived_iff (startFree : goal start = false) (node : α) :
    (links.walk goal start).ending = .arrived node ↔ links.FirstGoal goal start node := by
  have follows := links.walk_follows goal start
  constructor
  · exact follows.firstGoal startFree
  · intro first
    cases ended : (links.walk goal start).ending with
    | arrived other => rw [(follows.firstGoal startFree ended).unique first]
    | stuck last =>
        exact absurd (follows.goalFree_of_no_goal startFree (by simp [ended])) first.not_goalFree
    | looped repeated =>
        exact absurd (follows.goalFree_of_no_goal startFree (by simp [ended])) first.not_goalFree

theorem walk_stuck_iff (startFree : goal start = false) (last : α) :
    (links.walk goal start).ending = .stuck last ↔
      links.GoalFree goal start ∧ links.EndsAt start last := by
  have follows := links.walk_follows goal start
  constructor
  · intro ended
    exact ⟨follows.goalFree_of_no_goal startFree (by simp [ended]), follows.endsAt ended⟩
  · intro meaning
    obtain ⟨free, ends⟩ := meaning
    cases ended : (links.walk goal start).ending with
    | arrived node => exact absurd free (follows.firstGoal startFree ended).not_goalFree
    | stuck other => rw [(follows.endsAt ended).unique ends]
    | looped repeated => exact absurd (follows.endless ended) ends.not_endless

theorem walk_looped_iff (startFree : goal start = false) (repeated : α) :
    (links.walk goal start).ending = .looped repeated ↔
      links.GoalFree goal start ∧ links.Endless start ∧ links.FirstRepeat start repeated := by
  have follows := links.walk_follows goal start
  constructor
  · intro ended
    exact ⟨follows.goalFree_of_no_goal startFree (by simp [ended]), follows.endless ended,
      follows.firstRepeat ended⟩
  · intro meaning
    obtain ⟨free, endless, first⟩ := meaning
    cases ended : (links.walk goal start).ending with
    | arrived node => exact absurd free (follows.firstGoal startFree ended).not_goalFree
    | stuck last => exact absurd endless (follows.endsAt ended).not_endless
    | looped other => rw [(follows.firstRepeat ended).unique first]

theorem getElem?_trail {last : α} (ends : links.EndsAt start last) (n : Nat) :
    (links.trail start)[n]? = links.nth start n := by
  have follows := links.walk_follows (fun _ => false) start
  have stuck := (links.walk_stuck_iff (fun _ => false) rfl last).mpr ⟨fun _ _ _ => rfl, ends⟩
  have beyond := follows.ends
  rw [stuck] at beyond
  rcases Nat.lt_or_ge n (links.trail start).length with inside | outside
  · exact follows.nodes n inside
  · rw [List.getElem?_eq_none outside, links.nth_none_of_le beyond.2 outside]

theorem trail_of_next_none (ended : links.next start = none) : links.trail start = [start] := by
  have ends : links.EndsAt start start := ⟨0, rfl, ended⟩
  apply List.ext_getElem?
  intro n
  rw [links.getElem?_trail ends]
  cases n with
  | zero => rfl
  | succ n => rw [links.nth_succ, ended]; rfl

theorem trail_of_next {next last : α} (link : links.next start = some next)
    (ends : links.EndsAt next last) : links.trail start = start :: links.trail next := by
  apply List.ext_getElem?
  intro n
  rw [links.getElem?_trail (ends.of_next link)]
  cases n with
  | zero => rfl
  | succ n => rw [links.nth_succ, link, List.getElem?_cons_succ, links.getElem?_trail ends]; rfl

theorem mem_walk_iff (startFree : goal start = false) (node : α) :
    node ∈ (links.walk goal start).met ↔ ∃ n, links.nth start n = some node ∧
      ∀ m ≤ n, ∀ earlier, links.nth start m = some earlier → goal earlier = false := by
  have follows := links.walk_follows goal start
  constructor
  · intro member
    obtain ⟨n, bound, here⟩ := (follows.mem_iff node).mp member
    refine ⟨n, here, ?_⟩
    intro m before earlier there
    have inside : m < (links.walk goal start).met.length := by omega
    exact follows.goal_met startFree ((follows.mem_iff earlier).mpr ⟨m, inside, there⟩)
  · intro free
    obtain ⟨n, here, free⟩ := free
    cases ended : (links.walk goal start).ending with
    | arrived found =>
        have ends := follows.ends
        rw [ended] at ends
        have inside : n < (links.walk goal start).met.length := by
          by_contra beyond
          simp [free _ (by omega) found ends.1] at ends
        exact (follows.mem_iff node).mpr ⟨n, inside, here⟩
    | stuck last => exact mem_met_of_nth follows (by simp [ended]) here
    | looped repeated => exact mem_met_of_nth follows (by simp [ended]) here

theorem subset_met_walkFrom (met : List α) (current : α) :
    met ⊆ (links.walkFrom goal met current).met := by
  fun_induction walkFrom links goal met current with
  | case1 => exact List.Subset.refl _
  | case2 => exact List.Subset.refl _
  | case3 => exact List.Subset.refl _
  | case4 met current node _ _ _ ih =>
      exact List.Subset.trans (List.subset_append_left met [node]) ih

variable {links} {others : Links α}

theorem walkFrom_eq (links : Links α) (met : List α) (current : α) :
    links.walkFrom goal met current =
      match links.next current with
      | none => ⟨met, .stuck current⟩
      | some node =>
          if node ∈ met then ⟨met, .looped node⟩
          else if goal node then ⟨met, .arrived node⟩
          else links.walkFrom goal (met ++ [node]) node := by
  rw [walkFrom]
  split <;> simp_all

theorem walkFrom_congr {met : List α} {current : α} (known : current ∈ met)
    (agree : ∀ node ∈ (links.walkFrom goal met current).met, others.next node = links.next node) :
    others.walkFrom goal met current = links.walkFrom goal met current := by
  fun_induction walkFrom links goal met current with
  | case1 met current ended => rw [walkFrom_eq, agree current known, ended]
  | case2 met current node linked repeated =>
      rw [walkFrom_eq, agree current known, linked]
      exact if_pos repeated
  | case3 met current node linked unmet isGoal =>
      rw [walkFrom_eq, agree current known, linked]
      exact (if_neg unmet).trans (if_pos isGoal)
  | case4 met current node linked unmet noGoal ih =>
      have inside : current ∈ (links.walkFrom goal (met ++ [node]) node).met :=
        links.subset_met_walkFrom goal _ _ (List.mem_append_left _ known)
      rw [walkFrom_eq, agree current inside, linked]
      exact ((if_neg unmet).trans (if_neg noGoal)).trans (ih (by simp) agree)

theorem walk_congr {start : α}
    (agree : ∀ node ∈ (links.walk goal start).met, others.next node = links.next node) :
    others.walk goal start = links.walk goal start :=
  walkFrom_congr goal List.mem_cons_self agree

section Map

variable {β : Type} [DecidableEq β] {links : Links α} {others : Links β} {goal : α → Bool}
  {goalToo : β → Bool} {f : α → β} (within : α → Prop) (injective : Function.Injective f)
  (closed : ∀ {node next}, within node → links.next node = some next → within next)
  (sameNext : ∀ {node}, within node → others.next (f node) = (links.next node).map f)
  (sameGoal : ∀ {node}, within node → goalToo (f node) = goal node)

include injective closed sameNext sameGoal

theorem walkFrom_map (met : List α) {current : α} (inside : within current) :
    others.walkFrom goalToo (met.map f) (f current) = (links.walkFrom goal met current).map f := by
  fun_induction walkFrom links goal met current with
  | case1 met current ended =>
      rw [walkFrom_eq, sameNext inside, ended]
      rfl
  | case2 met current node linked repeated =>
      rw [walkFrom_eq, sameNext inside, linked]
      exact if_pos (List.mem_map_of_mem repeated)
  | case3 met current node linked unmet isGoal =>
      have unmetToo : f node ∉ met.map f := mt (List.mem_map_of_injective injective).mp unmet
      rw [walkFrom_eq, sameNext inside, linked]
      exact (if_neg unmetToo).trans (if_pos ((sameGoal (closed inside linked)).trans isGoal))
  | case4 met current node linked unmet noGoal ih =>
      have unmetToo : f node ∉ met.map f := mt (List.mem_map_of_injective injective).mp unmet
      have noGoalToo : ¬ goalToo (f node) = true := by rwa [sameGoal (closed inside linked)]
      have onward := ih (closed inside linked)
      rw [List.map_append, List.map_singleton] at onward
      rw [walkFrom_eq, sameNext inside, linked]
      exact ((if_neg unmetToo).trans (if_neg noGoalToo)).trans onward

/-- Walks along links that are the same but for the names of the nodes, among nodes that the links
do not lead out of. -/
theorem walk_map {start : α} (inside : within start) :
    others.walk goalToo (f start) = (links.walk goal start).map f :=
  walkFrom_map within injective closed sameNext sameGoal [start] inside

end Map

end StepFlow.Links
