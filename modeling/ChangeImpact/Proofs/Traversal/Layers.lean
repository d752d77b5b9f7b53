import ChangeImpact.Traversal

/-!
# A search goes layer by layer

The queue of a search is never more than two depths wide: what is left of one layer, and behind it what
has been found of the next one. So a search makes the visits of one layer after the other, and what it
makes of a layer does not depend on where in the queue the next one begins. `layers` says what the layers
are without a queue, which is the form that everything about distances is proved of:

> `explore_eq`: a search makes the visits of its start, and then those of the layers with their depths.

The visits of one layer are made by induction on it (`search_layer`), and the layers by induction on the
steps that are left (`search_eq`). What has been seen only counts as a set, because the queue and the
layers list it in different orders (`search_congr`).
-/

namespace ChangeImpact.Traversal

variable {ν α β : Type}

/-! ## Layers -/

/-- Up to `depth` layers: the first one holds the known nodes among those met first that
have not been seen, every further one those that a step from the layer before leads to. -/
def layers [BEq ν] (terrain : Terrain ν α) : Nat → List ν → List (Visit ν α) → List (List (Visit ν α))
  | 0, _, _ => []
  | depth + 1, seen, met =>
    let found := fresh seen met
    match found.filter fun visit => terrain.known visit.node with
    | [] => []
    | layer =>
      layer :: layers terrain depth (found.map Visit.node ++ seen) (layer.flatMap terrain.steps)

/-- Visits that are all of one depth. -/
def atDepth (depth : Nat) (visits : List β) : List (β × Nat) := visits.map fun visit => (visit, depth)

/-- What stands in the layers, each with the number of its layer, where the first one has a number that
is given. -/
def numberedFrom (first : Nat) : List (List β) → List (β × Nat)
  | [] => []
  | layer :: rest => atDepth first layer ++ numberedFrom (first + 1) rest

/-- What stands in the layers, each with the number of its layer. -/
def numbered (layers : List (List β)) : List (β × Nat) := numberedFrom 0 layers

theorem atDepth_append (depth : Nat) (visits more : List β) :
    atDepth depth (visits ++ more) = atDepth depth visits ++ atDepth depth more := List.map_append

theorem mem_atDepth {depth : Nat} {visits : List β} {entry : β × Nat} :
    entry ∈ atDepth depth visits ↔ entry.1 ∈ visits ∧ entry.2 = depth := by
  unfold atDepth
  rw [List.mem_map]
  constructor
  · rintro ⟨visit, hvisit, rfl⟩
    exact ⟨hvisit, rfl⟩
  · rintro ⟨hvisit, rfl⟩
    exact ⟨entry.1, hvisit, rfl⟩

section Numbered

variable {layers : List (List β)} {first : Nat}

theorem first_le_of_mem {entry : β × Nat} (h : entry ∈ numberedFrom first layers) : first ≤ entry.2 := by
  induction layers generalizing first with
  | nil => cases h
  | cons layer rest ih =>
    rcases List.mem_append.mp h with hlayer | hrest
    · exact Nat.le_of_eq (mem_atDepth.mp hlayer).2.symm
    · exact Nat.le_of_succ_le (ih hrest)

theorem mem_numberedFrom {b : β} {i : Nat} : (b, first + i) ∈ numberedFrom first layers ↔
    ∃ layer, layers[i]? = some layer ∧ b ∈ layer := by
  induction layers generalizing first i with
  | nil => simp [numberedFrom]
  | cons layer rest ih =>
    rw [numberedFrom, List.mem_append, mem_atDepth]
    cases i with
    | zero =>
      have hlater : (b, first + 0) ∉ numberedFrom (first + 1) rest := fun h =>
        Nat.not_succ_le_self first (first_le_of_mem h)
      rw [or_iff_left hlater]
      simp
    | succ i =>
      rw [show first + (i + 1) = first + 1 + i by omega, ih, List.getElem?_cons_succ]
      simp only [show ¬ first + 1 + i = first by omega, and_false, false_or]

theorem mem_numbered {b : β} {n : Nat} :
    (b, n) ∈ numbered layers ↔ ∃ layer, layers[n]? = some layer ∧ b ∈ layer := by
  rw [← @mem_numberedFrom β layers 0 b n, Nat.zero_add]
  rfl

/-- Without their numbers the entries are the layers put together. -/
theorem numberedFrom_map_fst (first : Nat) (layers : List (List β)) :
    (numberedFrom first layers).map Prod.fst = layers.flatten := by
  induction layers generalizing first with
  | nil => rfl
  | cons layer rest ih =>
    rw [numberedFrom, List.map_append, ih, List.flatten_cons, atDepth, List.map_map]
    exact congrArg (· ++ rest.flatten) (List.map_id layer)

theorem numberedFrom_append (first : Nat) (layers more : List (List β)) :
    numberedFrom first (layers ++ more) =
      numberedFrom first layers ++ numberedFrom (first + layers.length) more := by
  induction layers generalizing first with
  | nil => rfl
  | cons layer rest ih =>
    rw [List.cons_append, numberedFrom, numberedFrom, ih, List.append_assoc, List.length_cons,
      Nat.add_right_comm, Nat.add_assoc]

/-- With the first layer at another number, all numbers move by as much. -/
theorem numberedFrom_add (first more : Nat) (layers : List (List β)) :
    numberedFrom (first + more) layers =
      (numberedFrom first layers).map fun entry => (entry.1, entry.2 + more) := by
  induction layers generalizing first with
  | nil => rfl
  | cons layer rest ih =>
    rw [numberedFrom, numberedFrom, List.map_append, ← ih, show first + more + 1 = first + 1 + more by omega]
    refine congrArg (· ++ _) ?_
    rw [atDepth, atDepth, List.map_map]
    rfl

/-- Closer entries come first. -/
theorem numberedFrom_sorted (first : Nat) (layers : List (List β)) :
    (numberedFrom first layers).Pairwise fun a b => a.2 ≤ b.2 := by
  induction layers generalizing first with
  | nil => exact List.Pairwise.nil
  | cons layer rest ih =>
    refine List.pairwise_append.mpr ⟨?_, ih (first + 1), fun a ha b hb => ?_⟩
    · exact List.pairwise_map.mpr (List.pairwise_of_forall fun _ _ => Nat.le_refl first)
    · rw [(mem_atDepth.mp ha).2]
      exact Nat.le_of_succ_le (first_le_of_mem hb)

/-- Of the numbered entries, a smaller number of layers has those with a smaller number. -/
theorem numberedFrom_take (first depth : Nat) (layers : List (List β)) :
    numberedFrom first (layers.take depth) =
      (numberedFrom first layers).filter fun entry => entry.2 < first + depth := by
  induction layers generalizing first depth with
  | nil =>
    rw [List.take_nil]
    rfl
  | cons layer rest ih =>
    cases depth with
    | zero =>
      -- neither this layer nor a later one has a number below the first
      refine (List.filter_eq_nil_iff.mpr fun entry hentry => ?_).symm
      have hle := first_le_of_mem hentry
      simp only [decide_eq_true_eq]
      omega
    | succ depth =>
      have hthis : ((atDepth first layer).filter fun entry => entry.2 < first + (depth + 1)) =
          atDepth first layer := by
        refine List.filter_eq_self.mpr fun entry hentry => ?_
        rw [decide_eq_true_eq, (mem_atDepth.mp hentry).2]
        omega
      rw [List.take_succ_cons, numberedFrom, numberedFrom, List.filter_append, hthis, ih,
        show first + 1 + depth = first + (depth + 1) by omega]

theorem numbered_take (depth : Nat) (layers : List (List β)) :
    numbered (layers.take depth) = (numbered layers).filter fun entry => entry.2 < depth := by
  rw [numbered, numberedFrom_take, Nat.zero_add]
  rfl

/-- Closer entries come earlier. -/
theorem numbered_before {before after : List (β × Nat)} {entry other : β × Nat}
    (hsplit : numbered layers = before ++ entry :: after) (hother : other ∈ numbered layers)
    (hcloser : other.2 < entry.2) : other ∈ before := by
  have hsorted := numberedFrom_sorted 0 layers
  change (numbered layers).Pairwise _ at hsorted
  rw [hsplit] at hother hsorted
  rcases List.mem_append.mp hother with hbefore | hrest
  · exact hbefore
  · rcases List.mem_cons.mp hrest with rfl | hafter
    · exact absurd hcloser (Nat.lt_irrefl _)
    · -- what comes later is not closer
      have hle := (List.pairwise_cons.mp (List.pairwise_append.mp hsorted).2.1).1 other hafter
      omega

end Numbered

/-! ## A layer after another -/

variable [BEq ν] {terrain : Terrain ν α} {bound depth : Nat} {seen other : List ν}

theorem layers_nil (left : Nat) (seen : List ν) : layers terrain left seen [] = [] := by
  cases left with
  | zero => rfl
  | succ left => rfl

/-- The first layer and those behind it; with nothing in it there are none behind it either. -/
theorem numberedFrom_layers_succ (depth left : Nat) (seen : List ν) (met : List (Visit ν α)) :
    numberedFrom depth (layers terrain (left + 1) seen met) =
      atDepth depth ((fresh seen met).filter fun visit => terrain.known visit.node) ++
        numberedFrom (depth + 1) (layers terrain left ((fresh seen met).map Visit.node ++ seen)
          (((fresh seen met).filter fun visit => terrain.known visit.node).flatMap terrain.steps)) := by
  show numberedFrom depth (match (fresh seen met).filter fun visit => terrain.known visit.node with
    | [] => []
    | layer => layer :: layers terrain left ((fresh seen met).map Visit.node ++ seen)
      (layer.flatMap terrain.steps)) = _
  split
  next hnil =>
    rw [hnil, List.flatMap_nil, layers_nil]
    rfl
  next => rfl

/-! ## What has been seen -/

theorem fresh_cons (seen : List ν) (visit : Visit ν α) (rest : List (Visit ν α)) :
    fresh seen (visit :: rest) =
      if seen.contains visit.node then fresh seen rest else visit :: fresh (visit.node :: seen) rest := rfl

/-- Only what can be met need be among what has been seen. -/
theorem fresh_congr {P : ν → Prop} {met : List (Visit ν α)} (hmet : ∀ visit ∈ met, P visit.node)
    (hseen : ∀ v, P v → seen.contains v = other.contains v) : fresh seen met = fresh other met := by
  induction met generalizing seen other with
  | nil => rfl
  | cons visit rest ih =>
    obtain ⟨hvisit, hrest⟩ := List.forall_mem_cons.mp hmet
    rw [fresh_cons, fresh_cons, hseen _ hvisit]
    split
    next => exact ih hrest hseen
    next =>
      rw [ih hrest]
      intro v hv
      rw [List.contains_cons, List.contains_cons, hseen v hv]

/-- What has been seen counts as a set. -/
theorem fresh_congr_set (h : ∀ v, seen.contains v = other.contains v) (met : List (Visit ν α)) :
    fresh seen met = fresh other met := fresh_congr (P := fun _ => True) (fun _ _ => trivial) fun v _ => h v

/-- What is met for the first time in two lists is what is so in the first, and in the second after
that. -/
theorem fresh_append (seen : List ν) (met more : List (Visit ν α)) :
    fresh seen (met ++ more) = fresh seen met ++ fresh ((fresh seen met).map Visit.node ++ seen) more := by
  induction met generalizing seen with
  | nil => rfl
  | cons visit rest ih =>
    rw [List.cons_append, fresh_cons, fresh_cons]
    split
    next => exact ih seen
    next =>
      rw [ih, List.cons_append]
      refine congrArg (visit :: fresh (visit.node :: seen) rest ++ ·) (fresh_congr_set (fun v => ?_) more)
      simp only [List.map_cons, List.contains_append, List.contains_cons, Bool.or_assoc, Bool.or_left_comm]

theorem search_congr (h : ∀ v, seen.contains v = other.contains v) (queue : List (Visit ν α × Nat)) :
    search terrain bound seen queue = search terrain bound other queue := by
  fun_induction search terrain bound seen queue generalizing other with
  | case1 => rw [search]
  | case2 seen visit depth queue hdepth found next =>
    rename_i ih
    rw [search, if_pos hdepth, ← fresh_congr_set h]
    refine congrArg ((visit, depth) :: ·) (ih fun v => ?_)
    rw [List.contains_append, List.contains_append, h v]
  | case3 seen visit depth queue hdepth ih => rw [search, if_neg hdepth, ih h]

/-! ## The queue -/

/-- As deep as it goes, a search makes the visits that are left and finds nothing more. -/
theorem search_deepest (seen : List ν) (layer : List (Visit ν α)) :
    search terrain bound seen (atDepth bound layer) = atDepth bound layer := by
  induction layer with
  | nil => rw [atDepth, List.map_nil, search]
  | cons visit rest ih =>
    show search terrain bound seen ((visit, bound) :: atDepth bound rest) = _
    rw [search, if_neg (Nat.lt_irrefl bound), ih]
    rfl

/-- The visits of one layer are made one after the other, and then those of the next one: what was found
of that before, and what the steps of this layer lead to. -/
theorem search_layer (hdepth : depth < bound) (seen : List ν) (layer next : List (Visit ν α)) :
    search terrain bound seen (atDepth depth layer ++ atDepth (depth + 1) next) =
      atDepth depth layer ++
        search terrain bound ((fresh seen (layer.flatMap terrain.steps)).map Visit.node ++ seen)
          (atDepth (depth + 1) (next ++ (fresh seen (layer.flatMap terrain.steps)).filter
            fun visit => terrain.known visit.node)) := by
  induction layer generalizing seen next with
  | nil => simp [atDepth, fresh]
  | cons visit rest ih =>
    show search terrain bound seen ((visit, depth) :: (atDepth depth rest ++ atDepth (depth + 1) next)) = _
    rw [search, if_pos hdepth]
    show (visit, depth) :: search terrain bound _ (atDepth depth rest ++ atDepth (depth + 1) next ++
      atDepth (depth + 1) ((fresh seen (terrain.steps visit)).filter
        fun visit => terrain.known visit.node)) = _
    rw [List.append_assoc, ← atDepth_append, ih, List.flatMap_cons, fresh_append, List.filter_append,
      ← List.append_assoc next]
    refine congrArg ((visit, depth) :: atDepth depth rest ++ ·) (search_congr (fun v => ?_) _)
    simp only [List.map_append, List.contains_append, Bool.or_assoc, Bool.or_left_comm]

/-- **Layer by layer.** From the visits of one layer on, a search makes those, and then those of the
layers behind it. -/
theorem search_eq (left : Nat) : ∀ {depth : Nat}, depth + left = bound → ∀ (seen : List ν)
    (layer : List (Visit ν α)), search terrain bound seen (atDepth depth layer) =
      atDepth depth layer ++
        numberedFrom (depth + 1) (layers terrain left seen (layer.flatMap terrain.steps)) := by
  induction left with
  | zero =>
    intro depth hbound seen layer
    rw [Nat.add_zero] at hbound
    subst hbound
    rw [search_deepest]
    exact (List.append_nil _).symm
  | succ left ih =>
    intro depth hbound seen layer
    have hlayer := @search_layer ν α _ terrain bound depth (by omega) seen layer []
    rw [show atDepth (depth + 1) ([] : List (Visit ν α)) = [] from rfl, List.append_nil,
      List.nil_append] at hlayer
    rw [hlayer, ih (by omega), numberedFrom_layers_succ]

/-- **The whole search.** A search makes the visits of its start, and then those of the layers, the first of
which has what was named and what the start leads to. -/
theorem explore_eq (bound : Nat) (start named : List (Visit ν α)) :
    explore terrain bound start named = atDepth 0 start ++ numberedFrom 1 (layers terrain bound
      (start.map Visit.node) (named ++ start.flatMap terrain.steps)) := by
  unfold explore
  cases bound with
  | zero =>
    dsimp only
    rw [if_pos rfl]
    show search terrain 0 _ (atDepth 0 start ++ []) = atDepth 0 start ++ []
    rw [List.append_nil, search_deepest]
  | succ left =>
    dsimp only
    rw [if_neg (Nat.succ_ne_zero left)]
    show search terrain (left + 1) _ (atDepth 0 start ++ atDepth 1 _) = _
    rw [search_layer (Nat.succ_pos left), numberedFrom_layers_succ, fresh_append, List.filter_append,
      ← search_eq left (Nat.add_comm 1 left)]
    refine congrArg (atDepth 0 start ++ ·) (search_congr (fun v => ?_) _)
    simp only [List.map_append, List.contains_append, Bool.or_assoc, Bool.or_left_comm]

end ChangeImpact.Traversal
