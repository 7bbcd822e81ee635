/-!
Walks along links of which each node has at most one: from a step to its parent, or from a step to
the target of its first connection. A walk meets each node once, so it ends on every graph, one
with cycles included.
-/
namespace StepFlow

structure Links (α : Type) where
  next : α → Option α
  targets : List α
  next_mem : ∀ {a b}, next a = some b → b ∈ targets

/-- How a walk ends: at a node without a link, at a node it was looking for, or before a node it
has met already. -/
inductive WalkEnd (α : Type)
  | stuck (last : α)
  | arrived (goal : α)
  | looped (repeated : α)
  deriving DecidableEq, Repr

def WalkEnd.goal? {α : Type} : WalkEnd α → Option α
  | arrived goal => some goal
  | stuck _ | looped _ => none

/-- The nodes met in order, the goal excepted. -/
structure Walk (α : Type) where
  met : List α
  ending : WalkEnd α
  deriving DecidableEq, Repr

namespace Links

variable {α : Type} [DecidableEq α]

def countUnmet (targets met : List α) : Nat := (targets.filter (· ∉ met)).length

theorem countUnmet_lt {targets met : List α} {node : α} (target : node ∈ targets)
    (unmet : node ∉ met) : countUnmet targets (met ++ [node]) < countUnmet targets met := by
  have narrower : (targets.filter (· ∉ met ++ [node])) =
      (targets.filter (· ∉ met)).filter (· ≠ node) := by
    rw [List.filter_filter]
    refine List.filter_congr fun a _ => ?_
    by_cases inMet : a ∈ met <;> by_cases same : a = node <;> simp [inMet, same]
  rw [countUnmet, countUnmet, narrower]
  exact List.length_filter_lt_length_iff_exists.mpr ⟨node, by simp [target, unmet], by simp⟩

def walkFrom (links : Links α) (goal : α → Bool) (met : List α) (current : α) : Walk α :=
  match _linked : links.next current with
  | none => ⟨met, .stuck current⟩
  | some node =>
      if _unmet : node ∈ met then ⟨met, .looped node⟩
      else if goal node then ⟨met, .arrived node⟩
      else walkFrom links goal (met ++ [node]) node
termination_by countUnmet links.targets met
decreasing_by exact countUnmet_lt (links.next_mem _linked) _unmet

/-- The walk that sets out from `start`, which is not itself tested for being the goal. -/
def walk (links : Links α) (goal : α → Bool) (start : α) : Walk α :=
  links.walkFrom goal [start] start

def trail (links : Links α) (start : α) : List α := (links.walk (fun _ => false) start).met

end Links

end StepFlow
