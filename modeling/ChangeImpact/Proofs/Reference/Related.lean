import Mathlib.Data.List.Nodup
import ChangeImpact.Proofs.Reference.Conditions
import ChangeImpact.Proofs.Reference.Rows
import ChangeImpact.Proofs.Traversal.Distance
import ChangeImpact.Reference.Related

/-!
# What is related to an entity

A stored reference joins two entities, and one can go along it either way: `Hop` is this relation,
and `HopsFrom table key n` are the entities met after `n` hops. A reference is related to an entity
within a depth if one of its ends is met after fewer hops than the depth allows.

> `related_exact`: the answer is made of exactly the related references, each once; there is an
> answer exactly if all of them can be read.

References are told apart by their ids and entities by type and id together. Entities are explored
layer by layer, so completeness is that of `Charts.mem_layers_iff`; that an id is answered once
does not lose a reference, because no two rows have one id.
-/

namespace ChangeImpact

open Traversal

namespace ReferenceTable

/-- A stored reference joins the two entities, in either direction. -/
def Hop (table : ReferenceTable) (u v : EntityKey) : Prop :=
  ∃ row ∈ table.rows, (row.link.source = u ∧ row.link.target = v) ∨
    (row.link.target = u ∧ row.link.source = v)

/-- The entity `v` is met after `n` hops from `key`. -/
def HopsFrom (table : ReferenceTable) (key : EntityKey) (n : Nat) (v : EntityKey) : Prop :=
  Reached (fun m u => m = 0 ∧ u = key) table.Hop n v

/-- The row has an end that is at most `bound` hops from `key`. -/
def IsNear (table : ReferenceTable) (key : EntityKey) (bound : Int) (row : Row) : Prop :=
  ∃ v n, (row.link.source = v ∨ row.link.target = v) ∧ table.HopsFrom key n v ∧ (n : Int) ≤ bound

variable {table : ReferenceTable}

/-! ## One entity -/

/-- The rows at an entity are those with it on either side. -/
theorem mem_touching {key : EntityKey} {row : Row} :
    row ∈ table.touching key ↔
      row ∈ table.rows ∧ (row.link.source = key ∨ row.link.target = key) := by
  unfold touching matching newest
  rw [List.mem_filter, List.mem_mergeSort, Filter.accepts_touching]

/-- The other ends of the references at an entity are one hop away. -/
theorem exists_otherEnd_iff {u v : EntityKey} :
    (∃ row ∈ table.touching u, otherEnd u row = v) ↔ table.Hop u v := by
  unfold otherEnd Hop
  constructor
  · intro hgiven
    obtain ⟨row, hrow, hend⟩ := hgiven
    obtain ⟨hmem, htouch⟩ := mem_touching.mp hrow
    split at hend
    next hsource => exact ⟨row, hmem, Or.inl ⟨hsource, hend⟩⟩
    next hsource => exact ⟨row, hmem, Or.inr ⟨htouch.resolve_left hsource, hend⟩⟩
  · intro hgiven
    rcases hgiven with ⟨row, hmem, ⟨hsource, htarget⟩ | ⟨htarget, hsource⟩⟩
    · exact ⟨row, mem_touching.mpr ⟨hmem, Or.inl hsource⟩, by rw [if_pos hsource, htarget]⟩
    · refine ⟨row, mem_touching.mpr ⟨hmem, Or.inr htarget⟩, ?_⟩
      -- a reference from the entity to itself leads back to it
      split
      next hloop => rw [htarget, ← hloop, hsource]
      next => exact hsource

/-! ## Hop by hop -/

/-- Nothing is related at depth zero. -/
theorem related_zero (table : ReferenceTable) (key : EntityKey) : table.related key 0 = [] := by
  have hnone : ∀ visits, table.around 0 visits = [] := fun visits => by
    unfold around
    rw [List.filter_eq_nil_iff.mpr fun _ _ => by simp]
    rfl
  unfold related
  rw [hnone]
  rfl

/-- What is visited before a search has gone one hop more than some are the entity and the layers of so many
hops around it. -/
theorem related_succ (table : ReferenceTable) (key : EntityKey) (hops : Nat) :
    table.related key (hops + 1) = distinct [] (table.touching key ++
      (layers table.terrain hops [key]
        (((table.touching key).map (otherEnd key)).map visitOf)).flatten.flatMap
          fun visit => table.touching visit.node) := by
  have hmet : [] ++ [visitOf key].flatMap table.terrain.steps =
      ((table.touching key).map (otherEnd key)).map visitOf := by
    rw [List.nil_append, List.flatMap_singleton, List.map_map]
    rfl
  have hfilter : (fun entry : Visit EntityKey Unit × Nat => decide (entry.2 < hops + 1)) =
      fun entry => decide (entry.2 < 1 + hops) := by rw [Nat.add_comm]
  unfold related around
  rw [explore_eq, hmet, List.filter_append, List.flatMap_append, hfilter, ← numberedFrom_take,
    ← layers_take _ (Nat.le_succ hops), ← numberedFrom_map_fst 1, List.flatMap_map]
  have hstart : (atDepth 0 [visitOf key]).filter (fun entry => entry.2 < 1 + hops) =
      atDepth 0 [visitOf key] := List.filter_eq_self.mpr fun entry hentry => by
    rw [(mem_atDepth.mp hentry).2, decide_eq_true_eq]
    omega
  rw [hstart]
  show distinct [] ((table.touching key ++ []) ++ _) = _
  rw [List.append_nil]
  rfl

/-- The exploration along the references of a table explores its hops. -/
theorem charts_terrain (table : ReferenceTable) (key : EntityKey) :
    Charts table.terrain [key] (((table.touching key).map (otherEnd key)).map visitOf)
      (fun n v => n = 0 ∧ v = key) table.Hop := by
  refine ⟨?_, ?_, ?_, ?_, fun _ _ _ => rfl, fun _ _ _ _ h => eq_of_beq h⟩
  · intro v
    simp
  · intro v _
    constructor
    · intro hgiven
      obtain ⟨visit, hvisit, rfl⟩ := hgiven
      obtain ⟨u, hu, rfl⟩ := List.mem_map.mp hvisit
      exact Or.inr ⟨key, ⟨rfl, rfl⟩, exists_otherEnd_iff.mp (List.mem_map.mp hu)⟩
    · intro hgiven
      -- a node at depth one is no start, so a row leads to it
      rcases hgiven with ⟨hone, -⟩ | ⟨u, ⟨-, rfl⟩, hhop⟩
      · cases hone
      · exact ⟨visitOf v, List.mem_map_of_mem (List.mem_map.mpr (exists_otherEnd_iff.mpr hhop)), rfl⟩
  · intro visit v _
    rw [← exists_otherEnd_iff]
    constructor
    · intro hgiven
      obtain ⟨next, hnext, rfl⟩ := hgiven
      obtain ⟨row, hrow, rfl⟩ := List.mem_map.mp hnext
      exact ⟨row, hrow, rfl⟩
    · intro hgiven
      obtain ⟨row, hrow, rfl⟩ := hgiven
      exact ⟨_, List.mem_map_of_mem hrow, rfl⟩
  · intro n v hseed
    cases hseed.1

/-- Within so many hops means at the start or in one of so many layers. -/
theorem within_iff {key v : EntityKey} {hops : Nat} :
    Within (fun m u => m = 0 ∧ u = key) table.Hop hops v ↔
      v = key ∨ ∃ visit ∈ (layers table.terrain hops [key]
        (((table.touching key).map (otherEnd key)).map visitOf)).flatten, visit.node = v := by
  have hlayers := (charts_terrain table key).mem_layers_iff hops
  constructor
  · intro hv
    obtain ⟨n, hn, hdist⟩ := hv.exists_atDistance
    cases n with
    | zero => exact Or.inl (atDistance_zero.mp hdist).2
    | succ n =>
      obtain ⟨layer, hlayer, visit, hvisit, hnode⟩ := (hlayers n v).mpr ⟨hn, hdist⟩
      exact Or.inr ⟨visit, List.mem_flatten.mpr ⟨layer, List.mem_of_getElem? hlayer, hvisit⟩, hnode⟩
  · intro hgiven
    rcases hgiven with rfl | ⟨visit, hvisit, hnode⟩
    · exact ⟨0, Nat.zero_le _, .seed ⟨rfl, rfl⟩⟩
    · obtain ⟨layer, hlayer, hmem⟩ := List.mem_flatten.mp hvisit
      obtain ⟨n, hn⟩ := List.mem_iff_getElem?.mp hlayer
      obtain ⟨hlt, hdist⟩ := (hlayers n v).mp ⟨layer, hn, visit, hmem, hnode⟩
      exact ⟨n + 1, hlt, hdist.1⟩

/-! ## Each reference once -/

/-- Leaving out ids that have been seen leaves nothing else out. -/
theorem mem_distinct {rows : List Row} (hids : ∀ a ∈ rows, ∀ b ∈ rows, a.id = b.id → a = b)
    {seen : List String} {row : Row} : row ∈ distinct seen rows ↔ row ∈ rows ∧ row.id ∉ seen := by
  induction rows generalizing seen with
  | nil => simp [distinct]
  | cons first rest ih =>
    have hrest : ∀ a ∈ rest, ∀ b ∈ rest, a.id = b.id → a = b := fun a ha b hb =>
      hids a (List.mem_cons_of_mem _ ha) b (List.mem_cons_of_mem _ hb)
    unfold distinct
    split
    next hseen =>
      rw [ih hrest, List.mem_cons]
      constructor
      · intro hgiven
        obtain ⟨hrow, hnot⟩ := hgiven
        exact ⟨Or.inr hrow, hnot⟩
      · intro hgiven
        rcases hgiven with ⟨rfl | hrow, hnot⟩
        · exact absurd hseen hnot
        · exact ⟨hrow, hnot⟩
    next hseen =>
      rw [List.mem_cons, List.mem_cons, ih hrest, List.mem_cons, not_or]
      constructor
      · intro hgiven
        rcases hgiven with rfl | ⟨hrow, -, hnot⟩
        · exact ⟨Or.inl rfl, hseen⟩
        · exact ⟨Or.inr hrow, hnot⟩
      · intro hgiven
        rcases hgiven with ⟨rfl | hrow, hnot⟩
        · exact Or.inl rfl
        · -- a row with the id of the first one is the first one
          by_cases hid : row.id = first.id
          · exact Or.inl (hids row (List.mem_cons_of_mem _ hrow) first (List.mem_cons_self ..) hid)
          · exact Or.inr ⟨hrow, hid, hnot⟩

/-- No id is left twice. -/
theorem distinct_nodup (rows : List Row) (seen : List String) :
    ((distinct seen rows).map Row.id).Nodup ∧ ∀ row ∈ distinct seen rows, row.id ∉ seen := by
  induction rows generalizing seen with
  | nil => simp [distinct]
  | cons first rest ih =>
    unfold distinct
    split
    next => exact ih seen
    next hseen =>
      obtain ⟨hnodup, hnew⟩ := ih (first.id :: seen)
      refine ⟨?_, ?_⟩
      · refine List.nodup_cons.mpr ⟨fun hmem => ?_, hnodup⟩
        obtain ⟨row, hrow, hid⟩ := List.mem_map.mp hmem
        exact hnew row hrow (hid ▸ List.mem_cons_self ..)
      · intro row hrow
        rcases List.mem_cons.mp hrow with rfl | hrest
        · exact hseen
        · exact fun hmem => hnew row hrest (List.mem_cons_of_mem _ hmem)

/-- The rows at the entities that are explored are the rows near the start. -/
theorem mem_explored {key : EntityKey} {hops : Nat} {row : Row} :
    row ∈ table.touching key ++ (layers table.terrain hops [key]
        (((table.touching key).map (otherEnd key)).map visitOf)).flatten.flatMap
          (fun visit => table.touching visit.node) ↔
      row ∈ table.rows ∧ table.IsNear key hops row := by
  have hnear : table.IsNear key hops row ↔ ∃ v, (row.link.source = v ∨ row.link.target = v) ∧
      Within (fun m u => m = 0 ∧ u = key) table.Hop hops v := by
    constructor
    · intro hgiven
      obtain ⟨v, n, hend, hv, hn⟩ := hgiven
      exact ⟨v, hend, n, Int.ofNat_le.mp hn, hv⟩
    · intro hgiven
      obtain ⟨v, hend, n, hn, hv⟩ := hgiven
      exact ⟨v, n, hend, hv, Int.ofNat_le.mpr hn⟩
  rw [hnear, List.mem_append]
  constructor
  · intro hgiven
    --  hlater|the start is no visit of the search: its rows are listed apart
    rcases hgiven with hfirst | hlater
    · obtain ⟨hmem, hend⟩ := mem_touching.mp hfirst
      exact ⟨hmem, key, hend, within_iff.mpr (Or.inl rfl)⟩
    · obtain ⟨visit, hvisit, htouch⟩ := List.mem_flatMap.mp hlater
      obtain ⟨hmem, hend⟩ := mem_touching.mp htouch
      exact ⟨hmem, visit.node, hend, within_iff.mpr (Or.inr ⟨visit, hvisit, rfl⟩)⟩
  · intro hgiven
    obtain ⟨hmem, v, hend, hv⟩ := hgiven
    rcases within_iff.mp hv with rfl | ⟨visit, hvisit, rfl⟩
    · exact Or.inl (mem_touching.mpr ⟨hmem, hend⟩)
    · exact Or.inr (List.mem_flatMap.mpr ⟨visit, hvisit, mem_touching.mpr ⟨hmem, hend⟩⟩)

/-- Nothing is less than no hops away. -/
theorem not_isNear {key : EntityKey} {hops : Int} (h : hops < 0) {row : Row} :
    ¬ table.IsNear key hops row := by
  intro hgiven
  obtain ⟨v, n, -, -, hn⟩ := hgiven
  omega

/-- The related rows are the rows near the entity. -/
theorem mem_related (hids : (table.rows.map Row.id).Nodup) {key : EntityKey} {depth : Nat}
    {row : Row} : row ∈ table.related key depth ↔
      row ∈ table.rows ∧ table.IsNear key ((depth : Int) - 1) row := by
  cases depth with
  | zero =>
    rw [related_zero]
    constructor
    · intro h
      cases h
    · intro hgiven
      exact absurd hgiven.2 (not_isNear (by omega))
  | succ hops =>
    rw [show ((hops + 1 : Nat) : Int) - 1 = hops by omega, ← mem_explored, related_succ, mem_distinct,
      and_iff_left List.not_mem_nil]
    intro a ha b hb hid
    exact List.inj_on_of_nodup_map hids (mem_explored.mp ha).1 (mem_explored.mp hb).1 hid

/-- So they are for any depth: one below zero stands for no row, as zero does. -/
theorem mem_related_toNat (hids : (table.rows.map Row.id).Nodup) {key : EntityKey} {depth : Int}
    {row : Row} : row ∈ table.related key depth.toNat ↔
      row ∈ table.rows ∧ table.IsNear key (depth - 1) row := by
  rw [mem_related hids]
  rcases Int.le_total depth 0 with hneg | hpos
  · rw [Int.toNat_of_nonpos hneg]
    exact and_congr_right fun _ => iff_of_false (not_isNear (by omega)) (not_isNear (by omega))
  · rw [Int.toNat_of_nonneg hpos]

/-- Nothing is answered twice. -/
theorem related_nodup (table : ReferenceTable) (key : EntityKey) (depth : Nat) :
    ((table.related key depth).map Row.id).Nodup := (distinct_nodup _ []).1

end ReferenceTable

namespace Store

/-- A store answers the related rows as references, if they can be read. -/
theorem related_eq {store : Store} (hopen : store.isOpen = true) (type id : String) (depth : Int) :
    store.related (.str type) (.str id) (.int depth) =
      (store.table.related ⟨type, id⟩ depth.toNat).mapM Row.reference := by
  have hkeys : Json.needKeys [.str type, .str id] = .ok () := rfl
  have hnumber : (Json.int depth).needNumber = .ok () := rfl
  unfold related
  dsimp only
  rw [hkeys, hnumber, Checked.ok_bind, Checked.ok_bind]
  cases depth.toNat with
  | zero =>
    rw [ReferenceTable.related_zero]
    rfl
  | succ hops =>
    rw [if_neg (Nat.succ_ne_zero hops), Store.needOpen_eq hopen]
    rfl

/-- **Related references are those near by.** In an open store whose rows have distinct ids, there
is an answer exactly if all references near the entity can be read, and then it holds them and
nothing else, each once. Nothing is near for a depth of zero or less. -/
theorem related_exact {store : Store} (hopen : store.isOpen = true)
    (hids : (store.table.rows.map Row.id).Nodup) (type id : String) (depth : Int) :
    ((∃ refs, store.related (.str type) (.str id) (.int depth) = .ok refs) ↔
      ∀ row ∈ store.table.rows, store.table.IsNear ⟨type, id⟩ (depth - 1) row →
        ∃ ref, row.reference = .ok ref) ∧
    (∀ refs, store.related (.str type) (.str id) (.int depth) = .ok refs →
      (refs.map Reference.id).Nodup ∧
      ∀ ref, ref ∈ refs ↔ ∃ row ∈ store.table.rows,
        row.reference = .ok ref ∧ store.table.IsNear ⟨type, id⟩ (depth - 1) row) ∧
    (depth ≤ 0 → store.related (.str type) (.str id) (.int depth) = .ok []) := by
  have hmem : ∀ row, row ∈ store.table.related ⟨type, id⟩ depth.toNat ↔
      row ∈ store.table.rows ∧ store.table.IsNear ⟨type, id⟩ (depth - 1) row :=
    fun row => ReferenceTable.mem_related_toNat hids
  rw [related_eq hopen]
  refine ⟨?_, ?_, ?_⟩
  · -- an answer is there when each of these rows reads as a reference
    rw [Checked.exists_mapM_eq_ok]
    constructor
    · intro h row hrow hnear
      exact h row ((hmem row).mpr ⟨hrow, hnear⟩)
    · intro h row hrow
      obtain ⟨hrow, hnear⟩ := (hmem row).mp hrow
      exact h row hrow hnear
  · intro refs hrefs
    refine ⟨?_, ?_⟩
    · -- the ids of the references are those of their rows
      rw [Row.mapM_reference_ids hrefs]
      exact ReferenceTable.related_nodup ..
    · intro ref
      rw [Checked.mem_mapM hrefs]
      constructor
      · intro hgiven
        obtain ⟨row, hrow, href⟩ := hgiven
        obtain ⟨hrow, hnear⟩ := (hmem row).mp hrow
        exact ⟨row, hrow, href, hnear⟩
      · intro hgiven
        obtain ⟨row, hrow, href, hnear⟩ := hgiven
        exact ⟨row, (hmem row).mpr ⟨hrow, hnear⟩, href⟩
  · intro hdepth
    rw [Int.toNat_of_nonpos hdepth, ReferenceTable.related_zero]
    rfl

/-- Three tasks in a circle, one of which blocks itself as well and is named twice by another. -/
def circle : Store where
  table := ⟨[⟨1, "r1", ⟨⟨"task", "a"⟩, ⟨"task", "b"⟩, "blocks"⟩, none, 0, none⟩,
    ⟨2, "r2", ⟨⟨"task", "b"⟩, ⟨"task", "c"⟩, "blocks"⟩, some "[1]", 0, none⟩,
    ⟨3, "r3", ⟨⟨"task", "c"⟩, ⟨"task", "a"⟩, "blocks"⟩, none, 5, some "me"⟩,
    ⟨4, "r4", ⟨⟨"task", "b"⟩, ⟨"task", "b"⟩, "blocks"⟩, none, 5, none⟩,
    ⟨5, "r5", ⟨⟨"task", "a"⟩, ⟨"task", "b"⟩, "mentions"⟩, some "[", 0, none⟩]⟩
  issuer := .start
  creator := .null
  isOpen := true

/-- The rows of the example below can be read. -/
theorem circle_readable : ∀ row ∈ circle.table.rows, ∃ ref, row.reference = .ok ref := by
  intro row hrow
  simp only [circle, List.mem_cons, List.not_mem_nil, or_false] at hrow
  rcases hrow with rfl | rfl | rfl | rfl | rfl
  all_goals exact ⟨_, rfl⟩

theorem related_exact_circle :
    circle.isOpen = true ∧ (circle.table.rows.map Row.id).Nodup ∧
    ∃ refs, circle.related (.str "task") (.str "a") (.int 1) = .ok refs ∧
      (refs.map Reference.id).Nodup ∧
      ∀ ref, ref ∈ refs ↔ ∃ row ∈ circle.table.rows,
        row.reference = .ok ref ∧ circle.table.IsNear ⟨"task", "a"⟩ 0 row := by
  have hids : (circle.table.rows.map Row.id).Nodup := by decide
  obtain ⟨hanswer, hexact, -⟩ := @related_exact circle rfl hids "task" "a" 1
  obtain ⟨refs, hrefs⟩ := hanswer.mpr fun row hrow _ => circle_readable row hrow
  exact ⟨rfl, hids, refs, hrefs, hexact refs hrefs⟩

end Store

end ChangeImpact
