import Mathlib.Logic.Relation
import StepFlow.Links

/-!
What a walk finds. `nth` follows the links without looking back, so its sequence may go on for
ever; a walk meets the nodes of that sequence in order and stops where it breaks off, comes to a
goal or repeats itself (`walk_follows`). Without a goal it finds exactly the nodes that can be
reached (`mem_trail`).
-/
namespace StepFlow.Links

variable {α : Type}

def nth (links : Links α) (start : α) : Nat → Option α
  | 0 => some start
  | n + 1 => (links.nth start n).bind links.next

def Reaches (links : Links α) : α → α → Prop :=
  Relation.ReflTransGen fun source target => links.next source = some target

def Behind (links : Links α) : α → α → Prop :=
  Relation.TransGen fun source target => links.next source = some target

theorem nth_none_of_le (links : Links α) {start : α} {n m : Nat}
    (ended : links.nth start n = none) (later : n ≤ m) : links.nth start m = none := by
  induction later with
  | refl => exact ended
  | step _ ih => rw [nth, ih, Option.bind_none]

theorem nth_some_of_le (links : Links α) {start node : α} {n m : Nat}
    (found : links.nth start m = some node) (earlier : n ≤ m) :
    ∃ before, links.nth start n = some before := by
  cases here : links.nth start n with
  | some before => exact ⟨before, rfl⟩
  | none =>
      have gone := links.nth_none_of_le here earlier
      rw [gone] at found
      cases found

theorem reaches_iff_nth (links : Links α) (start node : α) :
    links.Reaches start node ↔ ∃ n, links.nth start n = some node := by
  constructor
  · intro path
    induction path with
    | refl => exact ⟨0, rfl⟩
    | tail _ link ih =>
        rcases ih with ⟨n, here⟩
        exact ⟨n + 1, by rw [nth, here, Option.bind_some, link]⟩
  · intro given
    rcases given with ⟨n, here⟩
    induction n generalizing node with
    | zero =>
        cases here
        exact .refl
    | succ n ih =>
        rcases Option.bind_eq_some_iff.mp here with ⟨middle, before, link⟩
        exact .tail (ih middle before) link

theorem behind_of_nth (links : Links α) {start source target : α} {n m : Nat}
    (first : links.nth start n = some source) (second : links.nth start m = some target)
    (earlier : n < m) : links.Behind source target := by
  induction earlier generalizing target with
  | refl =>
      rw [nth, first, Option.bind_some] at second
      exact .single second
  | step _ ih =>
      rcases Option.bind_eq_some_iff.mp second with ⟨middle, before, link⟩
      exact .tail (ih before) link

structure Path (links : Links α) (goal : α → Bool) (start : α) (met : List α) : Prop where
  nonempty : met ≠ []
  nodes : ∀ n < met.length, met[n]? = links.nth start n
  distinct : met.Nodup
  goalFree : ∀ node ∈ met.tail, goal node = false

structure Follows (links : Links α) (goal : α → Bool) (start : α) (walk : Walk α) : Prop
    extends Path links goal start walk.met where
  ends : match walk.ending with
    | .stuck last => walk.met.getLast? = some last ∧ links.nth start walk.met.length = none
    | .arrived node => links.nth start walk.met.length = some node ∧ goal node = true
    | .looped node => links.nth start walk.met.length = some node ∧ node ∈ walk.met

section Path

variable {links : Links α} {goal : α → Bool} {start : α} {met : List α}

theorem Path.single (links : Links α) (goal : α → Bool) (start : α) :
    Path links goal start [start] where
  nonempty := by simp
  nodes := by
    intro n bound
    obtain rfl : n = 0 := by simpa using bound
    rfl
  distinct := by simp
  goalFree := by simp

theorem Path.nth_length {current : α} (path : Path links goal start met)
    (last : met.getLast? = some current) : links.nth start met.length = links.next current := by
  have positive : 0 < met.length := List.length_pos_iff.mpr path.nonempty
  have here := path.nodes (met.length - 1) (by omega)
  rw [← List.getLast?_eq_getElem?, last] at here
  obtain ⟨n, counted⟩ : ∃ n, met.length = n + 1 := ⟨met.length - 1, by omega⟩
  rw [counted, Nat.add_sub_cancel] at here
  rw [counted, nth, ← here, Option.bind_some]

theorem Path.push {node : α} (path : Path links goal start met)
    (next : links.nth start met.length = some node) (unmet : node ∉ met)
    (noGoal : goal node = false) : Path links goal start (met ++ [node]) where
  nonempty := by simp
  nodes := by
    intro n bound
    rw [List.length_append, List.length_singleton] at bound
    by_cases old : n < met.length
    · rw [List.getElem?_append_left old]
      exact path.nodes n old
    · obtain rfl : n = met.length := by omega
      rw [List.getElem?_concat_length, next]
  distinct := by
    rw [List.nodup_append]
    refine ⟨path.distinct, by simp, ?_⟩
    intro a inside b last
    rw [List.mem_singleton.mp last]
    exact ne_of_mem_of_not_mem inside unmet
  goalFree := by
    intro a member
    rw [List.tail_append_of_ne_nil path.nonempty] at member
    rcases List.mem_append.mp member with inside | last
    · exact path.goalFree a inside
    · rw [List.mem_singleton.mp last]
      exact noGoal

theorem Path.mem_iff (path : Path links goal start met) (node : α) :
    node ∈ met ↔ ∃ n < met.length, links.nth start n = some node := by
  constructor
  · intro member
    rcases List.mem_iff_getElem.mp member with ⟨n, bound, here⟩
    refine ⟨n, bound, ?_⟩
    rw [← path.nodes n bound, List.getElem?_eq_getElem bound, here]
  · intro given
    rcases given with ⟨n, bound, here⟩
    rw [← path.nodes n bound] at here
    exact List.mem_of_getElem? here

theorem Path.eq_of_nth_eq (path : Path links goal start met) {n m : Nat} (left : n < met.length)
    (right : m < met.length) (same : links.nth start n = links.nth start m) : n = m := by
  rw [← path.nodes n left, ← path.nodes m right] at same
  exact (List.getElem?_inj left path.distinct).mp same

end Path

theorem mem_met_of_nth {links : Links α} {goal : α → Bool} {start : α} {walk : Walk α}
    (follows : Follows links goal start walk) (noGoal : ∀ node, walk.ending ≠ .arrived node)
    {n : Nat} {node : α} (found : links.nth start n = some node) : node ∈ walk.met := by
  induction n generalizing node with
  | zero =>
      have positive : 0 < walk.met.length := List.length_pos_iff.mpr follows.nonempty
      exact (follows.mem_iff node).mpr ⟨0, positive, found⟩
  | succ n ih =>
      rcases Option.bind_eq_some_iff.mp found with ⟨before, here, link⟩
      rcases (follows.mem_iff before).mp (ih here) with ⟨m, bound, there⟩
      have step : links.nth start (m + 1) = some node := by
        rw [nth, there, Option.bind_some, link]
      by_cases inside : m + 1 < walk.met.length
      · exact (follows.mem_iff node).mpr ⟨m + 1, inside, step⟩
      · -- `before` is the last node met, so its link is the one the walk ended with
        have atEnd : m + 1 = walk.met.length := by omega
        rw [atEnd] at step
        have ends := follows.ends
        cases ended : walk.ending with
        | arrived goal => exact absurd ended (noGoal goal)
        | stuck last =>
            rw [ended] at ends
            cases step.symm.trans ends.2
        | looped repeated =>
            rw [ended] at ends
            cases step.symm.trans ends.1
            exact ends.2

variable [DecidableEq α]

theorem walkFrom_follows (links : Links α) (goal : α → Bool) (start : α) (met : List α)
    (current : α) (path : Path links goal start met) (last : met.getLast? = some current) :
    Follows links goal start (links.walkFrom goal met current) := by
  fun_induction walkFrom links goal met current with
  | case1 met current ended =>
      exact { path with ends := ⟨last, (path.nth_length last).trans ended⟩ }
  | case2 met current node linked repeated =>
      exact { path with ends := ⟨(path.nth_length last).trans linked, repeated⟩ }
  | case3 met current node linked _ isGoal =>
      exact { path with ends := ⟨(path.nth_length last).trans linked, isGoal⟩ }
  | case4 met current node linked unmet noGoal ih =>
      have next := (path.nth_length last).trans linked
      exact ih (path.push next unmet (by simpa using noGoal)) (by simp)

theorem walk_follows (links : Links α) (goal : α → Bool) (start : α) :
    Follows links goal start (links.walk goal start) :=
  walkFrom_follows links goal start [start] start (Path.single links goal start) rfl

theorem mem_trail (links : Links α) (start node : α) :
    node ∈ links.trail start ↔ links.Reaches start node := by
  have follows := links.walk_follows (fun _ => false) start
  have noGoal : ∀ goal, (links.walk (fun _ => false) start).ending ≠ .arrived goal := by
    intro goal ended
    have ends := follows.ends
    rw [ended] at ends
    cases ends.2
  rw [reaches_iff_nth]
  constructor
  · intro member
    rcases (follows.mem_iff node).mp member with ⟨n, _, here⟩
    exact ⟨n, here⟩
  · intro given
    rcases given with ⟨n, here⟩
    exact mem_met_of_nth follows noGoal here

end StepFlow.Links
