import Mathlib.Data.List.Infix
import ChangeImpact.Proofs.Reference.Pages
import ChangeImpact.Proofs.Reference.Related

/-!
# Closest first

The references related to an entity are answered closest first, and a greater depth only adds to the
end of the answer:

> `related_closestFirst`: the answer to a depth is the beginning of the answer to any greater one; along
> an answer the hops to the nearer ends of the references do not decrease; and to depth one the answer is
> that of a query for the entity on either side, as long as one page holds it.

What is answered to one depth more is what comes near with one hop more (`mem_related`), and it comes
behind all the rest (`related_isPrefix`). So an answer is put together depth by depth, and that its
order is the order of distances needs no look at the order in which entities are met.
-/

namespace ChangeImpact

open Traversal

/-- The reference has the entity at one of its ends. -/
def Reference.HasEnd (ref : Reference) (key : EntityKey) : Prop :=
  (ref.sourceType = .str key.type ∧ ref.sourceId = .str key.id) ∨
    (ref.targetType = .str key.type ∧ ref.targetId = .str key.id)

/-- The ends of a row's reference are those of the row's link. -/
theorem Row.hasEnd_iff {row : Row} {ref : Reference} (h : row.reference = .ok ref) {v : EntityKey} :
    ref.HasEnd v ↔ row.link.source = v ∨ row.link.target = v := by
  obtain ⟨metadata, -, rfl⟩ := Row.reference_eq_ok.mp h
  obtain ⟨number, id, ⟨⟨sourceType, sourceId⟩, ⟨targetType, targetId⟩, relationship⟩, kept, createdAt,
    createdBy⟩ := row
  obtain ⟨type, id'⟩ := v
  simp [Reference.HasEnd, Row.withMetadata]

namespace ReferenceTable

/-- The nearer end of the reference is `n` hops from the entity. -/
def NearerEnd (table : ReferenceTable) (key : EntityKey) (n : Nat) (ref : Reference) : Prop :=
  (∃ v, ref.HasEnd v ∧ table.HopsFrom key n v) ∧
    ∀ v m, ref.HasEnd v → table.HopsFrom key m v → n ≤ m

variable {table : ReferenceTable}

/-- What is near within some hops, and not within fewer, has its nearer end after that many. -/
theorem nearerEnd_of_isNear {key : EntityKey} {n : Nat} {row : Row} {ref : Reference}
    (href : row.reference = .ok ref) (hnear : table.IsNear key n row)
    (hfar : ¬ table.IsNear key ((n : Int) - 1) row) : table.NearerEnd key n ref := by
  have hleast : ∀ v m, ref.HasEnd v → table.HopsFrom key m v → n ≤ m := by
    intro v m hend hv
    by_contra hless
    exact hfar ⟨v, m, (Row.hasEnd_iff href).mp hend, hv, by omega⟩
  obtain ⟨v, m, hend, hv, hm⟩ := hnear
  have hend := (Row.hasEnd_iff href).mpr hend
  have heq : m = n := by
    have := hleast v m hend hv
    omega
  exact ⟨⟨v, hend, heq ▸ hv⟩, hleast⟩

/-- If the rows are near within these hops and not within fewer, their references have their nearer ends
after these hops. -/
theorem forall₂_nearerEnd {key : EntityKey} {hops : List Nat} {rows : List Row} {refs : List Reference}
    (hnear : List.Forall₂ (fun (n : Nat) row =>
      table.IsNear key n row ∧ ¬ table.IsNear key ((n : Int) - 1) row) hops rows)
    (hread : List.Forall₂ (fun row ref => row.reference = .ok ref) rows refs) :
    List.Forall₂ (table.NearerEnd key) hops refs := by
  induction hnear generalizing refs with
  | nil =>
    cases hread
    exact .nil
  | cons hfirst _ ih =>
    cases hread with
    | cons href hrest => exact .cons (nearerEnd_of_isNear href hfirst.1 hfirst.2) (ih hrest)

/-! ## Going further -/

/-- What is left of a list is left first of a longer one. -/
theorem distinct_isPrefix {rows others : List Row} (h : rows <+: others) (seen : List String) :
    distinct seen rows <+: distinct seen others := by
  obtain ⟨rest, rfl⟩ := h
  induction rows generalizing seen with
  | nil => exact List.nil_prefix
  | cons row rows ih =>
    rw [List.cons_append]
    unfold distinct
    split
    next => exact ih seen
    next => exact List.cons_prefix_cons.mpr ⟨rfl, ih (row.id :: seen)⟩

/-- A greater depth adds to the end. -/
theorem related_isPrefix (table : ReferenceTable) (key : EntityKey) {depth more : Nat}
    (h : depth ≤ more) : table.related key depth <+: table.related key more := by
  cases depth with
  | zero =>
    rw [related_zero]
    exact List.nil_prefix
  | succ hops =>
    obtain ⟨more, rfl⟩ : ∃ n, more = n + 1 := ⟨more - 1, by omega⟩
    rw [related_succ, related_succ, layers_take _ (Nat.le_of_succ_le_succ h)]
    refine distinct_isPrefix ?_ []
    exact (List.prefix_append_right_inj _).mpr ((List.take_prefix _ _).flatten.flatMap _)

/-- One number stands for all rows that it goes with. -/
theorem forall₂_replicate {R : Nat → Row → Prop} {n : Nat} {rows : List Row}
    (h : ∀ row ∈ rows, R n row) : List.Forall₂ R (List.replicate rows.length n) rows := by
  induction rows with
  | nil => exact .nil
  | cons row rows ih =>
    obtain ⟨hrow, hrest⟩ := List.forall_mem_cons.mp h
    exact .cons hrow (ih hrest)

/-- Row by row, an answer has the number of hops after which the row comes near, and these numbers do
not decrease. -/
theorem exists_hops (hids : (table.rows.map Row.id).Nodup) (key : EntityKey) (depth : Nat) :
    ∃ hops : List Nat, hops.Pairwise (· ≤ ·) ∧ (∀ n ∈ hops, n < depth) ∧
      List.Forall₂ (fun (n : Nat) row =>
        table.IsNear key n row ∧ ¬ table.IsNear key ((n : Int) - 1) row) hops
        (table.related key depth) := by
  induction depth with
  | zero =>
    rw [related_zero]
    exact ⟨[], List.Pairwise.nil, List.forall_mem_nil _, .nil⟩
  | succ depth ih =>
    obtain ⟨hops, hsorted, hbelow, hall⟩ := ih
    obtain ⟨further, hfurther⟩ := table.related_isPrefix key (Nat.le_succ depth)
    refine ⟨hops ++ List.replicate further.length depth, ?_, ?_, ?_⟩
    · refine List.pairwise_append.mpr ⟨hsorted, ?_, fun n hn m hm => ?_⟩
      · exact List.pairwise_replicate.mpr (Or.inr (Nat.le_refl depth))
      · rw [List.eq_of_mem_replicate hm]
        exact Nat.le_of_lt (hbelow n hn)
    · intro n hn
      rcases List.mem_append.mp hn with hn | hn
      · exact Nat.lt_succ_of_lt (hbelow n hn)
      · rw [List.eq_of_mem_replicate hn]
        exact Nat.lt_succ_self depth
    · rw [← hfurther]
      refine List.rel_append hall ?_
      have hnew : ∀ row ∈ further,
          table.IsNear key depth row ∧ ¬ table.IsNear key ((depth : Int) - 1) row := by
        intro row hrow
        have hmem : row ∈ table.related key (depth + 1) := by
          rw [← hfurther]
          exact List.mem_append_right _ hrow
        obtain ⟨hstored, hnear⟩ := (mem_related hids).mp hmem
        rw [show ((depth + 1 : Nat) : Int) - 1 = depth by omega] at hnear
        refine ⟨hnear, fun hbefore => ?_⟩
        -- what is near within fewer hops has been answered, and nothing is answered twice
        have hold : row ∈ table.related key depth := (mem_related hids).mpr ⟨hstored, hbefore⟩
        have hnodup := table.related_nodup key (depth + 1)
        rw [← hfurther, List.map_append] at hnodup
        exact (List.nodup_append.mp hnodup).2.2 _ (List.mem_map_of_mem hold) _
          (List.mem_map_of_mem hrow) rfl
      exact forall₂_replicate hnew

/-! ## One step -/

theorem distinct_eq_self {rows : List Row} {seen : List String} (hids : (rows.map Row.id).Nodup)
    (hnew : ∀ row ∈ rows, row.id ∉ seen) : distinct seen rows = rows := by
  induction rows generalizing seen with
  | nil => rfl
  | cons row rows ih =>
    obtain ⟨hrow, hrest⟩ := List.nodup_cons.mp hids
    obtain ⟨hfirst, hlater⟩ := List.forall_mem_cons.mp hnew
    unfold distinct
    rw [if_neg hfirst, ih hrest]
    intro other hother hmem
    rcases List.mem_cons.mp hmem with heq | hseen
    · exact hrow (heq ▸ List.mem_map_of_mem hother)
    · exact hlater other hother hseen

theorem newest_perm (table : ReferenceTable) : table.newest.Perm table.rows :=
  List.mergeSort_perm ..

theorem length_touching (table : ReferenceTable) (key : EntityKey) : (table.touching key).length =
    (table.rows.filter fun row => row.link.source = key ∨ row.link.target = key).length := by
  have hside : (Filter.touching key .both).accepts =
      fun row : Row => decide (row.link.source = key ∨ row.link.target = key) := by
    funext row
    rw [Bool.eq_iff_iff, Filter.accepts_touching, decide_eq_true_iff]
  unfold touching matching
  rw [hside]
  exact ((newest_perm table).filter _).length_eq

/-- What is related within one step are the rows at the entity. -/
theorem related_one (hids : (table.rows.map Row.id).Nodup) (key : EntityKey) :
    table.related key 1 = table.touching key := by
  have htouching : ((table.touching key).map Row.id).Nodup := by
    refine (((newest_perm table).map Row.id).nodup_iff.mpr hids).sublist ?_
    exact List.filter_sublist.map Row.id
  rw [related_succ]
  show distinct [] (table.touching key ++ []) = _
  rw [List.append_nil, distinct_eq_self htouching fun _ _ => List.not_mem_nil]

end ReferenceTable

namespace TextFilter

/-- What is at an entity, on either side. -/
def atEntity (key : EntityKey) : TextFilter :=
  ⟨none, none, none, none, some key.type, some key.id, .both, .any⟩

theorem atEntity_meets_iff {key : EntityKey} (htype : key.type ≠ "") (hid : key.id ≠ "") {row : Row} :
    (atEntity key).Meets row ↔ row.link.source = key ∨ row.link.target = key := by
  have hkey : (atEntity key).IsAnchoredOn key := ⟨rfl, rfl, htype, hid⟩
  constructor
  · exact fun hmeets => hmeets.anchored key hkey
  · intro hside
    refine ⟨fun other hother => ?_, fun hnone => absurd ⟨key, hkey⟩ hnone, trivial⟩
    rw [← hkey.eq hother]
    exact hside

end TextFilter

namespace Store

open ReferenceTable

/-- The rows at an entity with a name are those that a query for it looks for. -/
theorem exists_bind_atEntity (table : ReferenceTable) {key : EntityKey} (htype : key.type ≠ "")
    (hid : key.id ≠ "") : ∃ clause filter, (TextFilter.atEntity key).request.clause = .ok clause ∧
      clause.bind = .ok filter ∧ table.matching filter = table.touching key := by
  obtain ⟨clause, filter, hclause, hbind, haccepts⟩ := (TextFilter.atEntity key).exists_bind
  refine ⟨clause, filter, hclause, hbind, List.filter_congr fun row _ => ?_⟩
  rw [Bool.eq_iff_iff, haccepts, TextFilter.atEntity_meets_iff htype hid, Filter.accepts_touching]

/-- **Closest first.** In an open store whose rows have distinct ids, there are answers to all depths if
all rows can be read. The answer to a depth is the beginning of that to a greater one; the nearer ends of
the references are not closer further on; and the answer to depth one is the first page of a query for
the entity, if no more references than one page holds are at the entity. -/
theorem related_closestFirst {store : Store} (hopen : store.isOpen = true)
    (hids : (store.table.rows.map Row.id).Nodup) (key : EntityKey) :
    ((∀ row ∈ store.table.rows, ∃ ref, row.reference = .ok ref) → ∀ depth : Int,
      ∃ refs, store.related (.str key.type) (.str key.id) (.int depth) = .ok refs) ∧
    (∀ depth more : Int, depth ≤ more → ∀ longer,
      store.related (.str key.type) (.str key.id) (.int more) = .ok longer →
      ∃ refs, store.related (.str key.type) (.str key.id) (.int depth) = .ok refs ∧
        refs <+: longer) ∧
    (∀ (depth : Int) refs, store.related (.str key.type) (.str key.id) (.int depth) = .ok refs →
      ∃ hops : List Nat, hops.Pairwise (· ≤ ·) ∧
        List.Forall₂ (store.table.NearerEnd key) hops refs) ∧
    (key.type ≠ "" → key.id ≠ "" →
      (store.table.rows.filter fun row =>
        row.link.source = key ∨ row.link.target = key).length ≤ 500 →
      ∀ refs, store.related (.str key.type) (.str key.id) (.int 1) = .ok refs ↔
        store.query (TextFilter.atEntity key).request (.int 500) (.int 0) = .ok refs) := by
  have hanswer : ∀ depth : Int, store.related (.str key.type) (.str key.id) (.int depth) =
      (store.table.related key depth.toNat).mapM Row.reference := related_eq hopen key.type key.id
  refine ⟨fun hreadable depth => ?_, fun depth more hle longer hlonger => ?_,
    fun depth refs hrefs => ?_, fun htype hid hfew refs => ?_⟩
  · rw [hanswer, Checked.exists_mapM_eq_ok]
    exact fun row hrow => hreadable row ((mem_related hids).mp hrow).1
  · rw [hanswer] at hlonger ⊢
    -- the rows of the shorter search begin those of the longer one, and a row reads alike in both
    obtain ⟨rest, hrest⟩ := store.table.related_isPrefix key (Int.toNat_le_toNat hle)
    rw [← hrest, Checked.mapM_eq_ok] at hlonger
    have hread := List.forall₂_take (store.table.related key depth.toNat).length hlonger
    rw [List.take_left] at hread
    exact ⟨_, Checked.mapM_eq_ok.mpr hread, List.take_prefix _ _⟩
  · rw [hanswer, Checked.mapM_eq_ok] at hrefs
    obtain ⟨hops, hsorted, -, hall⟩ := exists_hops hids key depth.toNat
    exact ⟨hops, hsorted, forall₂_nearerEnd hall hrefs⟩
  · obtain ⟨clause, filter, hclause, hbind, hmatching⟩ := exists_bind_atEntity store.table htype hid
    -- one page is long enough for everything that touches the entity
    have hpage : ((store.table.matching filter).drop 0).take 500 = store.table.touching key := by
      rw [List.drop_zero, hmatching, List.take_of_length_le]
      rwa [length_touching]
    have hquery : store.query (TextFilter.atEntity key).request (.int 500) (.int 0) = .ok refs ↔
        fitsWord (0 : Nat) = true ∧
          (((store.table.matching filter).drop 0).take 500).mapM Row.reference = .ok refs :=
      query_eq_ok hopen hclause hbind (by decide) (Nat.le_refl 500)
    rw [hpage, and_iff_right (by decide)] at hquery
    rw [hanswer, Int.toNat_one, related_one hids]
    exact hquery.symm

/-- The task `a` of the circle: three references are at it, and the other two join what it is joined
to. -/
theorem related_closestFirst_circle :
    circle.isOpen = true ∧ (circle.table.rows.map Row.id).Nodup ∧
    (∀ row ∈ circle.table.rows, ∃ ref, row.reference = .ok ref) ∧
    (circle.table.rows.filter fun row =>
      row.link.source = ⟨"task", "a"⟩ ∨ row.link.target = ⟨"task", "a"⟩).length ≤ 500 ∧
    ∃ refs longer, circle.related (.str "task") (.str "a") (.int 1) = .ok refs ∧
      circle.related (.str "task") (.str "a") (.int 2) = .ok longer ∧ refs <+: longer ∧
      circle.query (TextFilter.atEntity ⟨"task", "a"⟩).request (.int 500) (.int 0) = .ok refs ∧
      ∃ hops : List Nat, hops.Pairwise (· ≤ ·) ∧
        List.Forall₂ (circle.table.NearerEnd ⟨"task", "a"⟩) hops longer := by
  have hids : (circle.table.rows.map Row.id).Nodup := by decide
  have hfew : (circle.table.rows.filter fun row =>
      row.link.source = ⟨"task", "a"⟩ ∨ row.link.target = ⟨"task", "a"⟩).length ≤ 500 := by decide
  obtain ⟨hanswers, hbegins, hsorted, hpage⟩ :=
    @related_closestFirst circle rfl hids ⟨"task", "a"⟩
  obtain ⟨longer, hlonger⟩ := hanswers circle_readable 2
  obtain ⟨refs, hrefs, hbegin⟩ := hbegins 1 2 (by decide) longer hlonger
  exact ⟨rfl, hids, circle_readable, hfew, refs, longer, hrefs, hlonger, hbegin,
    (hpage (by decide) (by decide) hfew refs).mp hrefs, hsorted 2 longer hlonger⟩

end Store

end ChangeImpact
