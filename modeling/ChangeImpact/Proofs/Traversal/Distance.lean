import ChangeImpact.Proofs.Traversal.Layers

/-!
# Layers are distances

A search makes its visits layer by layer. `layers` sweeps outwards with a list of seen nodes; what it is
meant to compute is a distance. This file says what that distance is and proves that the layers are exactly it.

A graph is given by its seeds and its steps. `Reached seed step n v` says that `v` is met after
`n` steps, where a seed may be placed at any number to begin with, and `AtDistance` says that `n`
is the least such number. `Charts` says that a terrain, explored from some seen nodes after some
first meetings, is the exploration of that graph.

> `mem_layers_iff`: layer `n` holds exactly the nodes at distance `n + 1`, for `n` below the bound.

The sweep marks a node as seen when it meets it, known or not, and stops at the first empty layer.
`Frontier` is the invariant that carries this: after `i` layers the known nodes among the seen ones
are those at most `i` steps away, and what was met last covers those `i + 1` steps away.
`layers_take` adds that a smaller bound only leaves out the layers beyond it, `layers_fresh` that no
node stands in the layers twice, `exists_step_of_mem_layer` that every layer is stepped to from the one
before, and `layers_note` that what every step hands on with its note is found in the layers.
-/

namespace ChangeImpact.Traversal

variable {ν α : Type}

/-! ## Distances -/

/-- `v` is met after `n` steps; a seed is met after the number of steps that it is given. -/
inductive Reached (seed : Nat → ν → Prop) (step : ν → ν → Prop) : Nat → ν → Prop
  | seed {n v} (h : seed n v) : Reached seed step n v
  | step {n u v} (hu : Reached seed step n u) (h : step u v) : Reached seed step (n + 1) v

/-- `n` is the least number of steps after which `v` is met. -/
def AtDistance (seed : Nat → ν → Prop) (step : ν → ν → Prop) (n : Nat) (v : ν) : Prop :=
  Reached seed step n v ∧ ∀ j, Reached seed step j v → n ≤ j

/-- `v` is met after at most `n` steps. -/
def Within (seed : Nat → ν → Prop) (step : ν → ν → Prop) (n : Nat) (v : ν) : Prop :=
  ∃ j, j ≤ n ∧ Reached seed step j v

variable {seed : Nat → ν → Prop} {step : ν → ν → Prop}

theorem AtDistance.eq {m n : Nat} {v : ν} (hm : AtDistance seed step m v)
    (hn : AtDistance seed step n v) : m = n :=
  Nat.le_antisymm (hm.2 n hn.1) (hn.2 m hm.1)

theorem atDistance_zero {v : ν} : AtDistance seed step 0 v ↔ seed 0 v := by
  constructor
  · intro hgiven
    obtain ⟨h, -⟩ := hgiven
    cases h with
    | seed h => exact h
  · intro h
    exact ⟨.seed h, fun j _ => Nat.zero_le j⟩

/-- A node that is not met earlier is at that distance. -/
theorem atDistance_succ_iff {n : Nat} {v : ν} :
    AtDistance seed step (n + 1) v ↔ Reached seed step (n + 1) v ∧ ¬ Within seed step n v := by
  constructor
  · intro hgiven
    obtain ⟨h, hmin⟩ := hgiven
    refine ⟨h, ?_⟩
    intro hgiven
    obtain ⟨j, hj, hv⟩ := hgiven
    have := hmin j hv
    omega
  · intro hgiven
    obtain ⟨h, hnot⟩ := hgiven
    refine ⟨h, fun j hj => ?_⟩
    rcases Nat.lt_or_ge n j with hlt | hge
    · exact hlt
    · exact absurd ⟨j, hge, hj⟩ hnot

theorem Within.mono {m n : Nat} {v : ν} (h : Within seed step m v) (hmn : m ≤ n) :
    Within seed step n v := by
  obtain ⟨j, hj, hv⟩ := h
  exact ⟨j, Nat.le_trans hj hmn, hv⟩

theorem Within.next {n : Nat} {u v : ν} (h : Within seed step n u) (huv : step u v) :
    Within seed step (n + 1) v := by
  obtain ⟨j, hj, hu⟩ := h
  exact ⟨j + 1, by omega, .step hu huv⟩

/-- What is met at all has a distance. -/
theorem Within.exists_atDistance {n : Nat} {v : ν} (h : Within seed step n v) :
    ∃ m, m ≤ n ∧ AtDistance seed step m v := by
  induction n with
  | zero =>
    obtain ⟨j, hj, hv⟩ := h
    obtain rfl : j = 0 := by omega
    exact ⟨0, Nat.le_refl 0, hv, fun j _ => Nat.zero_le j⟩
  | succ n ih =>
    by_cases hn : Within seed step n v
    · obtain ⟨m, hm, hv⟩ := ih hn
      exact ⟨m, by omega, hv⟩
    · obtain ⟨j, hj, hv⟩ := h
      have hj' : j = n + 1 := by
        rcases Nat.lt_or_ge n j with hlt | hge
        · omega
        · exact absurd ⟨j, hge, hv⟩ hn
      subst hj'
      exact ⟨n + 1, Nat.le_refl _, atDistance_succ_iff.mpr ⟨hv, hn⟩⟩

/-- Distances have no gaps: beyond the seeds, a node is one step behind one that is closer. -/
theorem AtDistance.pred {n : Nat} {v : ν} (h : AtDistance seed step (n + 1) v)
    (hseed : ¬ seed (n + 1) v) : ∃ u, AtDistance seed step n u ∧ step u v := by
  obtain ⟨hv, hmin⟩ := h
  cases hv with
  | seed hs => exact absurd hs hseed
  | @step _ u _ hu huv =>
    refine ⟨u, ⟨hu, fun j hj => ?_⟩, huv⟩
    have := hmin (j + 1) (.step hj huv)
    omega

/-- With more seeds and steps, what was met is met still. -/
theorem Reached.mono {seed' : Nat → ν → Prop} {step' : ν → ν → Prop}
    (hseed : ∀ n v, seed n v → seed' n v) (hstep : ∀ u v, step u v → step' u v) {n : Nat} {v : ν}
    (h : Reached seed step n v) : Reached seed' step' n v := by
  induction h with
  | seed h => exact .seed (hseed _ _ h)
  | step _ huv ih => exact .step ih (hstep _ _ huv)

/-- With more seeds and steps, but none more to start from, distances only become shorter. -/
theorem AtDistance.closer {seed' : Nat → ν → Prop} {step' : ν → ν → Prop}
    (hseed : ∀ n v, seed n v → seed' n v) (hstep : ∀ u v, step u v → step' u v)
    (hstart : ∀ v, seed' 0 v → seed 0 v) {n : Nat} {v : ν} (h : AtDistance seed step (n + 1) v) :
    ∃ m, m ≤ n ∧ AtDistance seed' step' (m + 1) v := by
  obtain ⟨m, hm, hcloser⟩ :=
    Within.exists_atDistance ⟨n + 1, Nat.le_refl _, h.1.mono hseed hstep⟩
  cases m with
  | zero =>
    have := h.2 0 (.seed (hstart v (atDistance_zero.mp hcloser)))
    omega
  | succ m => exact ⟨m, by omega, hcloser⟩

/-! ## First meetings -/

section Fresh

variable [BEq ν]

/-- A first meeting is one of the meetings, with a node that has not been seen. -/
theorem mem_of_mem_fresh {seen : List ν} {met : List (Visit ν α)} {visit : Visit ν α}
    (h : visit ∈ fresh seen met) : visit ∈ met ∧ seen.contains visit.node = false := by
  induction met generalizing seen with
  | nil => simp [fresh] at h
  | cons first rest ih =>
    unfold fresh at h
    split at h
    next _ =>
      obtain ⟨hmem, hseen⟩ := ih h
      exact ⟨List.mem_cons_of_mem _ hmem, hseen⟩
    next hnot =>
      rcases List.mem_cons.mp h with rfl | hrest
      · exact ⟨List.mem_cons_self .., by simpa using hnot⟩
      · obtain ⟨hmem, hseen⟩ := ih hrest
        rw [List.contains_cons, Bool.or_eq_false_iff] at hseen
        exact ⟨List.mem_cons_of_mem _ hmem, hseen.2⟩

/-- Every node that is met has been seen or has a first meeting. -/
theorem exists_mem_fresh [ReflBEq ν] (seen : List ν) {met : List (Visit ν α)} {visit : Visit ν α}
    (h : visit ∈ met) : seen.contains visit.node = true ∨
      ∃ found ∈ fresh seen met, (visit.node == found.node) = true := by
  induction met generalizing seen with
  | nil => cases h
  | cons first rest ih =>
    unfold fresh
    split
    next hseen =>
      rcases List.mem_cons.mp h with rfl | hrest
      · exact Or.inl hseen
      · exact ih seen hrest
    next _ =>
      rcases List.mem_cons.mp h with rfl | hrest
      · exact Or.inr ⟨visit, List.mem_cons_self .., BEq.rfl⟩
      · rcases ih (first.node :: seen) hrest with hseen | ⟨found, hfound, heq⟩
        · rw [List.contains_cons, Bool.or_eq_true] at hseen
          rcases hseen with heq | hseen
          · exact Or.inr ⟨first, List.mem_cons_self .., heq⟩
          · exact Or.inl hseen
        · exact Or.inr ⟨found, List.mem_cons_of_mem _ hfound, heq⟩

/-- No node has two first meetings. -/
theorem fresh_pairwise (seen : List ν) (met : List (Visit ν α)) :
    (fresh seen met).Pairwise fun a b => (b.node == a.node) = false := by
  induction met generalizing seen with
  | nil => exact List.Pairwise.nil
  | cons first rest ih =>
    unfold fresh
    split
    next _ => exact ih seen
    next _ =>
      refine List.pairwise_cons.mpr ⟨fun visit hvisit => ?_, ih (first.node :: seen)⟩
      have hseen := (mem_of_mem_fresh hvisit).2
      rw [List.contains_cons, Bool.or_eq_false_iff] at hseen
      exact hseen.1

end Fresh

/-! ## One layer -/

/-- The terrain, explored from `seen` after the meetings `met`, is the graph of the seeds and the
steps. It starts from the seeds at no distance, first meets those at distance one and whatever a
step from the start leads to, and goes on by the steps. Nodes beyond the start are known and told
apart by comparison. -/
structure Charts [BEq ν] (terrain : Terrain ν α) (seen : List ν) (met : List (Visit ν α))
    (seed : Nat → ν → Prop) (step : ν → ν → Prop) : Prop where
  start : ∀ v, v ∈ seen ↔ seed 0 v
  first : ∀ v, terrain.known v = true →
    ((∃ visit ∈ met, visit.node = v) ↔ seed 1 v ∨ ∃ u, seed 0 u ∧ step u v)
  steps : ∀ (visit : Visit ν α) (v : ν), terrain.known v = true →
    ((∃ next ∈ terrain.steps visit, next.node = v) ↔ step visit.node v)
  later : ∀ n v, ¬ seed (n + 2) v
  known : ∀ n v, Reached seed step (n + 1) v → terrain.known v = true
  sharp : ∀ n v, Reached seed step (n + 1) v → ∀ w, (v == w) = true → v = w

/-- The sweep after `i` layers: the known nodes among the seen ones are those at most `i` steps
away, and those one step further are among what was met last. -/
structure Frontier (known : ν → Bool) (seed : Nat → ν → Prop) (step : ν → ν → Prop) (i : Nat)
    (seen : List ν) (met : List (Visit ν α)) : Prop where
  seen_of_near : ∀ v, Within seed step i v → v ∈ seen
  near_of_seen : ∀ v ∈ seen, known v = true → Within seed step i v
  reached_of_met : ∀ visit ∈ met, known visit.node = true → Reached seed step (i + 1) visit.node
  met_of_reached : ∀ v, Reached seed step (i + 1) v →
    Within seed step i v ∨ ∃ visit ∈ met, visit.node = v

section Layer

variable [BEq ν] {terrain : Terrain ν α} {start : List ν} {first : List (Visit ν α)}

/-- Before the first layer, the start has been seen. -/
theorem Charts.frontier (hc : Charts terrain start first seed step) :
    Frontier terrain.known seed step 0 start first := by
  refine ⟨?_, ?_, ?_, ?_⟩
  · intro v hwithin
    obtain ⟨j, hj, hv⟩ := hwithin
    obtain rfl : j = 0 := by omega
    exact (hc.start v).mpr (atDistance_zero.mp ⟨hv, fun j _ => Nat.zero_le j⟩)
  · intro v hv _
    exact ⟨0, Nat.le_refl 0, .seed ((hc.start v).mp hv)⟩
  · intro visit hvisit hknown
    rcases (hc.first visit.node hknown).mp ⟨visit, hvisit, rfl⟩ with hs | ⟨u, hu, huv⟩
    · exact .seed hs
    · exact .step (.seed hu) huv
  · intro v hv
    refine Or.inr ((hc.first v (hc.known 0 v hv)).mpr ?_)
    cases hv with
    | seed hs => exact Or.inl hs
    | step hu huv => exact Or.inr ⟨_, atDistance_zero.mp ⟨hu, fun j _ => Nat.zero_le j⟩, huv⟩

variable [ReflBEq ν] {i : Nat} {seen : List ν} {met : List (Visit ν α)}

/-- The known first meetings are exactly the nodes one step beyond those at most `i` away. -/
theorem mem_layer_iff (hc : Charts terrain start first seed step)
    (hf : Frontier terrain.known seed step i seen met) (v : ν) :
    (∃ visit ∈ (fresh seen met).filter (fun visit => terrain.known visit.node), visit.node = v) ↔
      AtDistance seed step (i + 1) v := by
  rw [atDistance_succ_iff]
  constructor
  · intro hgiven
    obtain ⟨visit, hvisit, rfl⟩ := hgiven
    obtain ⟨hfresh, hknown⟩ := List.mem_filter.mp hvisit
    obtain ⟨hmet, hseen⟩ := mem_of_mem_fresh hfresh
    refine ⟨hf.reached_of_met visit hmet hknown, fun hnear => ?_⟩
    -- what is near has been seen, and a first meeting is with a node that has not
    have hmem : seen.contains visit.node = true :=
      List.contains_iff_exists_mem_beq.mpr ⟨_, hf.seen_of_near _ hnear, BEq.rfl⟩
    rw [hmem] at hseen
    cases hseen
  · intro hgiven
    obtain ⟨hv, hfar⟩ := hgiven
    have hknown := hc.known i v hv
    obtain ⟨visit, hmet, rfl⟩ := (hf.met_of_reached v hv).resolve_left hfar
    rcases exists_mem_fresh seen hmet with hseen | ⟨found, hfound, heq⟩
    · -- seen under comparison is seen outright, hence not far
      obtain ⟨w, hw, heq⟩ := List.contains_iff_exists_mem_beq.mp hseen
      rw [← hc.sharp i _ hv w heq] at hw
      exact absurd (hf.near_of_seen _ hw hknown) hfar
    · have heq := hc.sharp i _ hv _ heq
      exact ⟨found, List.mem_filter.mpr ⟨hfound, by rw [← heq]; exact hknown⟩, heq.symm⟩

/-- One layer takes the frontier one step further. -/
theorem Frontier.succ (hc : Charts terrain start first seed step)
    (hf : Frontier terrain.known seed step i seen met) :
    Frontier terrain.known seed step (i + 1) ((fresh seen met).map Visit.node ++ seen)
      (((fresh seen met).filter fun visit => terrain.known visit.node).flatMap terrain.steps) := by
  have hlayer := mem_layer_iff hc hf
  refine ⟨?_, ?_, ?_, ?_⟩
  · intro v hv
    -- the new nodes at most `i + 1` away are those of this layer
    by_cases hnear : Within seed step i v
    · exact List.mem_append_right _ (hf.seen_of_near v hnear)
    · obtain ⟨m, hm, hv⟩ := hv.exists_atDistance
      have hm' : m = i + 1 := by
        rcases Nat.lt_or_ge i m with hlt | hge
        · omega
        · exact absurd ⟨m, hge, hv.1⟩ hnear
      subst hm'
      obtain ⟨visit, hvisit, rfl⟩ := (hlayer v).mpr hv
      exact List.mem_append_left _ (List.mem_map_of_mem (List.mem_filter.mp hvisit).1)
  · intro v hv hknown
    rcases List.mem_append.mp hv with hfound | hseen
    · obtain ⟨visit, hvisit, rfl⟩ := List.mem_map.mp hfound
      exact ⟨i + 1, Nat.le_refl _, hf.reached_of_met visit (mem_of_mem_fresh hvisit).1 hknown⟩
    · exact (hf.near_of_seen v hseen hknown).mono (Nat.le_succ i)
  · intro visit hvisit hknown
    obtain ⟨from', hfrom, hstep⟩ := List.mem_flatMap.mp hvisit
    have hdist := (hlayer from'.node).mp ⟨from', hfrom, rfl⟩
    exact .step hdist.1 ((hc.steps from' visit.node hknown).mp ⟨visit, hstep, rfl⟩)
  · intro v hv
    have hknown := hc.known (i + 1) v hv
    cases hv with
    | seed hs => exact absurd hs (hc.later i v)
    | @step _ u _ hu huv =>
      -- from a near node the step leads nowhere new; from this layer the terrain takes it
      by_cases hnear : Within seed step i u
      · exact Or.inl (hnear.next huv)
      · obtain ⟨visit, hvisit, rfl⟩ := (hlayer u).mpr (atDistance_succ_iff.mpr ⟨hu, hnear⟩)
        obtain ⟨next, hnext, rfl⟩ := (hc.steps visit v hknown).mpr huv
        exact Or.inr ⟨next, List.mem_flatMap.mpr ⟨visit, hvisit, hnext⟩, rfl⟩

end Layer

/-! ## All layers -/

section Layers

variable [BEq ν] {terrain : Terrain ν α} {start : List ν} {first : List (Visit ν α)}

/-- An empty layer has nothing behind it. -/
theorem Charts.nothing_beyond (hc : Charts terrain start first seed step) {i : Nat}
    (hempty : ∀ v, ¬ AtDistance seed step (i + 1) v) (n : Nat) (v : ν) :
    ¬ AtDistance seed step (i + 1 + n) v := by
  induction n generalizing v with
  | zero => exact hempty v
  | succ n ih =>
    intro hv
    rw [← Nat.add_assoc] at hv
    have hseed : ¬ seed (i + 1 + n + 1) v := by
      rw [show i + 1 + n + 1 = (i + n) + 2 by omega]
      exact hc.later (i + n) v
    obtain ⟨u, hu, -⟩ := hv.pred hseed
    exact ih u hu

/-- From a frontier on, the layers hold the nodes at the distances that follow. -/
theorem Frontier.mem_layers_iff [ReflBEq ν] (hc : Charts terrain start first seed step) :
    ∀ (depth : Nat) {i : Nat} {seen : List ν} {met : List (Visit ν α)},
      Frontier terrain.known seed step i seen met → ∀ (n : Nat) (v : ν),
        (∃ layer, (layers terrain depth seen met)[n]? = some layer ∧
          ∃ visit ∈ layer, visit.node = v) ↔
          n < depth ∧ AtDistance seed step (i + 1 + n) v := by
  intro depth
  induction depth with
  | zero => intro i seen met _ n v; simp [layers]
  | succ depth ih =>
    intro i seen met hf n v
    have hlayer := mem_layer_iff hc hf
    unfold layers
    dsimp only
    split
    next hnil =>
      -- nothing is met: the sweep stops, and there is nothing further away either
      have hempty : ∀ u, ¬ AtDistance seed step (i + 1) u := by
        intro u hu
        obtain ⟨visit, hvisit, -⟩ := (hlayer u).mpr hu
        rw [hnil] at hvisit
        cases hvisit
      simp [hc.nothing_beyond hempty n v]
    next =>
      cases n with
      | zero => simpa using hlayer v
      | succ n =>
        rw [List.getElem?_cons_succ, ih (hf.succ hc) n v]
        rw [show i + 1 + 1 + n = i + 1 + (n + 1) by omega, Nat.succ_lt_succ_iff]

/-- **Layers are distances.** Layer `n` holds exactly the nodes at distance `n + 1` from the start,
as long as `n` is below the bound. -/
theorem Charts.mem_layers_iff [ReflBEq ν] (hc : Charts terrain start first seed step)
    (depth n : Nat) (v : ν) :
    (∃ layer, (layers terrain depth start first)[n]? = some layer ∧
      ∃ visit ∈ layer, visit.node = v) ↔
      n < depth ∧ AtDistance seed step (n + 1) v := by
  have h := hc.frontier.mem_layers_iff hc depth n v
  rwa [show 0 + 1 + n = n + 1 by omega] at h

/-- A smaller bound leaves out the layers beyond it and changes no other. -/
theorem layers_take (terrain : Terrain ν α) {depth more : Nat} (h : depth ≤ more) (seen : List ν)
    (met : List (Visit ν α)) :
    layers terrain depth seen met = (layers terrain more seen met).take depth := by
  induction depth generalizing more seen met with
  | zero => rfl
  | succ depth ih =>
    obtain ⟨more, rfl⟩ : ∃ n, more = n + 1 := ⟨more - 1, by omega⟩
    unfold layers
    dsimp only
    split
    next => rfl
    next => rw [List.take_succ_cons, ih (Nat.le_of_succ_le_succ h)]

/-- Nothing that has been seen stands in the layers, and no node twice. -/
theorem layers_fresh [ReflBEq ν] (terrain : Terrain ν α) :
    ∀ (depth : Nat) (seen : List ν) (met : List (Visit ν α)),
      (∀ visit ∈ (layers terrain depth seen met).flatten, seen.contains visit.node = false) ∧
      (layers terrain depth seen met).flatten.Pairwise fun a b => (b.node == a.node) = false := by
  intro depth
  -- what is met is added to what was seen before, so that no later layer meets it again
  induction depth with
  | zero => intro seen met; simp [layers]
  | succ depth ih =>
    intro seen met
    unfold layers
    dsimp only
    split
    next => simp
    next =>
      obtain ⟨hrest, hpair⟩ := ih ((fresh seen met).map Visit.node ++ seen)
        (((fresh seen met).filter fun visit => terrain.known visit.node).flatMap terrain.steps)
      rw [List.flatten_cons]
      constructor
      · intro visit hvisit
        rcases List.mem_append.mp hvisit with hlayer | hlater
        · exact (mem_of_mem_fresh (List.mem_filter.mp hlayer).1).2
        · have hseen := hrest visit hlater
          rw [List.contains_append, Bool.or_eq_false_iff] at hseen
          exact hseen.2
      · refine List.pairwise_append.mpr ⟨(fresh_pairwise seen met).filter _, hpair, ?_⟩
        intro a ha b hb
        have hseen := hrest b hb
        rw [List.contains_append, Bool.or_eq_false_iff] at hseen
        refine Bool.eq_false_iff.mpr fun heq => ?_
        have hmem : ((fresh seen met).map Visit.node).contains b.node = true :=
          List.contains_iff_exists_mem_beq.mpr
            ⟨a.node, List.mem_map_of_mem (List.mem_filter.mp ha).1, heq⟩
        rw [hseen.1] at hmem
        cases hmem

/-- What stands in the first layer is a first meeting. -/
theorem mem_of_mem_firstLayer {terrain : Terrain ν α} {depth : Nat} {seen : List ν}
    {met layer : List (Visit ν α)} (h : (layers terrain depth seen met)[0]? = some layer)
    {visit : Visit ν α} (hvisit : visit ∈ layer) : visit ∈ met := by
  cases depth with
  | zero => cases h
  | succ depth =>
    unfold layers at h
    dsimp only at h
    split at h
    next => cases h
    next =>
      cases h
      exact (mem_of_mem_fresh (List.mem_filter.mp hvisit).1).1

/-- **Layers follow steps.** What stands in any other layer is a step from something in the layer
before. -/
theorem exists_step_of_mem_layer {terrain : Terrain ν α} :
    ∀ (depth : Nat) {seen : List ν} {met : List (Visit ν α)} (n : Nat) (layer : List (Visit ν α)),
      (layers terrain depth seen met)[n + 1]? = some layer → ∀ visit ∈ layer,
        ∃ before, (layers terrain depth seen met)[n]? = some before ∧
          ∃ last ∈ before, visit ∈ terrain.steps last := by
  intro depth
  induction depth with
  | zero =>
    intro seen met n layer hlayer
    cases hlayer
  | succ depth ih =>
    intro seen met n layer hlayer visit hvisit
    unfold layers at hlayer ⊢
    dsimp only at hlayer ⊢
    split at hlayer
    next => cases hlayer
    next =>
      rw [List.getElem?_cons_succ] at hlayer
      cases n with
      | zero =>
        -- what is met next are the steps from this layer
        obtain ⟨last, hlast, hstep⟩ := List.mem_flatMap.mp (mem_of_mem_firstLayer hlayer hvisit)
        exact ⟨_, rfl, last, hlast, hstep⟩
      | succ n =>
        rw [List.getElem?_cons_succ]
        exact ih n layer hlayer visit hvisit

/-- **Notes are handed on.** What holds of the first meetings after `i` steps, and after one more
step wherever a step leads, holds in layer `n` after `i + n` steps. -/
theorem layers_note {terrain : Terrain ν α} {P : Nat → Visit ν α → Prop}
    (hstep : ∀ i visit, P i visit → ∀ next ∈ terrain.steps visit, P (i + 1) next) (depth : Nat)
    {i : Nat} {seen : List ν} {met : List (Visit ν α)} (hmet : ∀ visit ∈ met, P i visit) (n : Nat)
    (layer : List (Visit ν α)) (hlayer : (layers terrain depth seen met)[n]? = some layer) :
    ∀ visit ∈ layer, P (i + n) visit := by
  induction n generalizing layer with
  | zero =>
    intro visit hvisit
    exact hmet visit (mem_of_mem_firstLayer hlayer hvisit)
  | succ n ih =>
    intro visit hvisit
    obtain ⟨before, hbefore, last, hlast, hvisit⟩ :=
      exists_step_of_mem_layer depth n layer hlayer visit hvisit
    exact hstep (i + n) last (ih before hbefore last hlast) visit hvisit

end Layers

/-- Where layers are distances, an entry stands under `n` exactly if its node is at distance
`n + 1`. -/
theorem exists_mem_numbered_layers_iff [BEq ν] [ReflBEq ν] {terrain : Terrain ν α} {start : List ν}
    {first : List (Visit ν α)} (hc : Charts terrain start first seed step) {depth n : Nat} {v : ν} :
    (∃ visit, (visit, n) ∈ numbered (layers terrain depth start first) ∧ visit.node = v) ↔
      n < depth ∧ AtDistance seed step (n + 1) v := by
  rw [← hc.mem_layers_iff depth n v]
  constructor
  · intro hgiven
    obtain ⟨visit, hvisit, hnode⟩ := hgiven
    obtain ⟨layer, hlayer, hmem⟩ := mem_numbered.mp hvisit
    exact ⟨layer, hlayer, visit, hmem, hnode⟩
  · intro hgiven
    obtain ⟨layer, hlayer, visit, hmem, hnode⟩ := hgiven
    exact ⟨visit, mem_numbered.mpr ⟨layer, hlayer, hmem⟩, hnode⟩

end ChangeImpact.Traversal
