/-!
# Breadth-first search

Modules, files and references are all explored the same way: outwards from some start, one
step further at a time, each node once.  A queue holds the visits that are still to be made, each
with its depth, which is the number of steps to it.  The visit at its front is made, and what its
steps lead to for the first time is put at its end, unless the visit is as deep as the search goes.

A node counts as seen as soon as it is met, whether or not it is known; only known ones are
put into the queue.  What is to be remembered about a node, such as the way to it, travels with
it as a `note` and is that of the first meeting.

Nothing is put into the queue by more than one visit, but what a visit causes in turn is only bounded
by all ways on from it.  Their number (`turns`) is what becomes smaller with every visit, and so the
search ends.

It is the loop of `_expand_module_dependencies`, `_expand_file_dependencies` and
`get_related_entities`.
-/

namespace ChangeImpact

/-- A node met on the way, with what is to be remembered about it. -/
structure Visit (ν α : Type) where
  node : ν
  note : α
deriving DecidableEq

/-- Where an exploration can go: the steps from a visited node, and which nodes are
known. -/
structure Terrain (ν α : Type) where
  steps : Visit ν α → List (Visit ν α)
  known : ν → Bool

namespace Traversal

-- sums of whole numbers are the core ones, whatever else is imported
attribute [local instance (high)] Zero.ofOfNat0

variable {ν α : Type} [BEq ν]

/-- The first meeting with each node that has not been seen. -/
def fresh (seen : List ν) : List (Visit ν α) → List (Visit ν α)
  | [] => []
  | visit :: rest =>
    if seen.contains visit.node then fresh seen rest
    else visit :: fresh (visit.node :: seen) rest

theorem fresh_sublist (seen : List ν) (met : List (Visit ν α)) : (fresh seen met).Sublist met := by
  induction met generalizing seen with
  | nil => exact .slnil
  | cons visit rest ih =>
    unfold fresh
    split
    · exact (ih seen).cons visit
    · exact (ih _).cons_cons visit

/-! ## Turns -/

omit [BEq ν] in
/-- A part of a list adds up to no more than the list. -/
theorem sum_map_le_of_sublist (f : Visit ν α → Nat) {part whole : List (Visit ν α)}
    (h : part.Sublist whole) : (part.map f).sum ≤ (whole.map f).sum := by
  induction h with
  | slnil => exact Nat.le_refl _
  | cons visit _ ih =>
    rw [List.map_cons, List.sum_cons]
    omega
  | cons_cons visit _ ih =>
    rw [List.map_cons, List.map_cons, List.sum_cons, List.sum_cons]
    omega

/-- The visits that one can cause with so many steps to go: itself, and those that the visits one
step on can cause. -/
def turns (terrain : Terrain ν α) : Nat → Visit ν α → Nat
  | 0, _ => 1
  | left + 1, visit => 1 + ((terrain.steps visit).map (turns terrain left)).sum

/-- The visits that a queue can cause. -/
def turnsOf (terrain : Terrain ν α) (bound : Nat) (queue : List (Visit ν α × Nat)) : Nat :=
  (queue.map fun entry => turns terrain (bound - entry.2) entry.1).sum

omit [BEq ν] in
theorem turnsOf_lt_of_rest (terrain : Terrain ν α) (bound : Nat) (entry : Visit ν α × Nat)
    (queue : List (Visit ν α × Nat)) :
    turnsOf terrain bound queue < turnsOf terrain bound (entry :: queue) := by
  have hpos : 0 < turns terrain (bound - entry.2) entry.1 := by
    unfold turns
    split <;> omega
  unfold turnsOf
  rw [List.map_cons, List.sum_cons]
  omega

omit [BEq ν] in
/-- Of what a visit can cause, the visit itself is not caused again by what it puts into the queue. -/
theorem turnsOf_lt_of_next (terrain : Terrain ν α) {bound depth : Nat} (hdepth : depth < bound)
    {visit : Visit ν α} {next : List (Visit ν α)} (hnext : next.Sublist (terrain.steps visit))
    (queue : List (Visit ν α × Nat)) :
    turnsOf terrain bound (queue ++ next.map fun visit => (visit, depth + 1)) <
      turnsOf terrain bound ((visit, depth) :: queue) := by
  have hturns : turns terrain (bound - depth) visit =
      1 + ((terrain.steps visit).map (turns terrain (bound - (depth + 1)))).sum := by
    rw [show bound - depth = bound - (depth + 1) + 1 by omega]
    rfl
  have hle := sum_map_le_of_sublist (turns terrain (bound - (depth + 1))) hnext
  unfold turnsOf
  rw [List.map_append, List.sum_append, List.map_map, List.map_cons, List.sum_cons, hturns]
  show _ + (next.map (turns terrain (bound - (depth + 1)))).sum < _
  omega

/-! ## The queue -/

/-- The visits that a queue leads to, in the order in which they are made, each with its depth.  Of
what the steps of a visit meet for the first time, known or not, the known nodes are put at the end
of the queue. -/
def search (terrain : Terrain ν α) (bound : Nat) (seen : List ν) :
    List (Visit ν α × Nat) → List (Visit ν α × Nat)
  | [] => []
  | (visit, depth) :: queue =>
    if depth < bound then
      let found := fresh seen (terrain.steps visit)
      let next := found.filter fun visit => terrain.known visit.node
      (visit, depth) :: search terrain bound (found.map Visit.node ++ seen)
        (queue ++ next.map fun visit => (visit, depth + 1))
    else (visit, depth) :: search terrain bound seen queue
termination_by queue => turnsOf terrain bound queue
decreasing_by
  · exact turnsOf_lt_of_next terrain ‹depth < bound›
      (List.filter_sublist.trans (fresh_sublist seen (terrain.steps visit))) queue
  · exact turnsOf_lt_of_rest terrain bound (visit, depth) queue

/-- The visits of a search from some start.  What is `named` besides is met before anything that a
step leads to and counts as one step away, so that a search that takes no step does without it. -/
def explore (terrain : Terrain ν α) (bound : Nat) (start named : List (Visit ν α)) :
    List (Visit ν α × Nat) :=
  let seen := start.map Visit.node
  let found := if bound = 0 then [] else fresh seen named
  let next := found.filter fun visit => terrain.known visit.node
  search terrain bound (found.map Visit.node ++ seen)
    ((start.map fun visit => (visit, 0)) ++ next.map fun visit => (visit, 1))

end Traversal

end ChangeImpact
