import ChangeImpact.Proofs.Reference.Operations

/-!
# What creating a reference saves

A store is asked for a reference by whatever values, not only by texts. A table has no room for a link of
which a part is missing, that is null or NaN; other values turn into texts (`cell_isSome`).

> `create_saves`: a request for a whole link leaves exactly one row with the id of the reference that is
> answered, or there is a fault and the rows stay. One for a link with a missing part never adds a row,
> and a reference that is answered to it is not in the table.

Nothing is assumed about the rows, except that no two of them have one id and that the ids still to be
issued are not among them.
-/

namespace ChangeImpact

/-! ## Cells -/

namespace Json

variable {value : Json} {parameter : Nat} {text? : Option String}

/-- Where a value stands only matters for the fault. -/
theorem cell_eq_ok (h : value.cell parameter = .ok text?) (other : Nat) :
    value.cell other = .ok text? := by
  cases value with
  | arr => cases h
  | obj => cases h
  | null => exact h
  | bool => exact h
  | int => exact h
  | float => exact h
  | str => exact h

/-- The value is null or NaN, of which a table keeps no text. -/
def IsMissing (value : Json) : Prop := value = .null ∨ value.isNaN = true

instance (value : Json) : Decidable value.IsMissing := inferInstanceAs (Decidable (_ ∨ _))

/-- Every value that can be stored has a text, unless it is missing. -/
theorem cell_isSome (h : value.cell parameter = .ok text?) : text?.isSome = true ↔ ¬ value.IsMissing := by
  unfold IsMissing
  cases value with
  | arr => cases h
  | obj => cases h
  | null =>
    cases h
    simp
  | bool =>
    cases h
    simp [isNaN]
  | int n =>
    simp only [cell] at h
    split at h
    next =>
      cases h
      simp [isNaN]
    next => cases h
  | float x =>
    cases h
    -- of the numbers that are not finite only NaN is stored as NULL
    by_cases hnan : x.isNaN = true
    · simp [isNaN, hnan]
    · by_cases hinf : x.isInfinite = true <;> simp [isNaN, hnan, hinf]
  | str =>
    cases h
    simp [isNaN]

end Json

/-- A link is whole if all its parts are there. -/
theorem Row.link_isSome (sourceType sourceId targetType targetId relationship : Option String) :
    (link? sourceType sourceId targetType targetId relationship).isSome = true ↔
      ∀ part ∈ [sourceType, sourceId, targetType, targetId, relationship], part.isSome = true := by
  cases sourceType <;> cases sourceId <;> cases targetType <;> cases targetId <;>
    cases relationship <;> simp [link?]

namespace NewReference

variable {request : NewReference} {found : Option LinkKey}

/-- The parts of the link that is asked for. -/
def parts (request : NewReference) : List Name :=
  [request.sourceType, request.sourceId, request.targetType, request.targetId, request.relationship]

/-- No part of the link that is asked for is missing. -/
def IsWhole (request : NewReference) : Prop := ∀ part ∈ request.parts, ¬ part.IsMissing

instance (request : NewReference) : Decidable request.IsWhole := inferInstanceAs (Decidable (∀ _ ∈ _, _))

/-- The link that is asked for, its parts turned into texts; `none` if one of them is missing. -/
def link? (request : NewReference) : Checked (Option LinkKey) := do
  return Row.link? (← request.sourceType.cell 2) (← request.sourceId.cell 3)
    (← request.targetType.cell 4) (← request.targetId.cell 5) (← request.relationship.cell 6)

/-- The texts that its link is made of. -/
theorem link_eq_ok : request.link? = .ok found ↔
    ∃ sourceType sourceId targetType targetId relationship,
      request.sourceType.cell 2 = .ok sourceType ∧ request.sourceId.cell 3 = .ok sourceId ∧
      request.targetType.cell 4 = .ok targetType ∧ request.targetId.cell 5 = .ok targetId ∧
      request.relationship.cell 6 = .ok relationship ∧
      Row.link? sourceType sourceId targetType targetId relationship = found := by
  unfold link?
  simp only [Checked.bind_eq_ok, Checked.pure_eq_ok]
  constructor
  · rintro ⟨a, ha, b, hb, c, hc, d, hd, e, he, heq⟩
    exact ⟨a, b, c, d, e, ha, hb, hc, hd, he, heq⟩
  · rintro ⟨a, b, c, d, e, ha, hb, hc, hd, he, heq⟩
    exact ⟨a, ha, b, hb, c, hc, d, hd, e, he, heq⟩

theorem link_isSome (h : request.link? = .ok found) : found.isSome = true ↔ request.IsWhole := by
  obtain ⟨_, _, _, _, _, ha, hb, hc, hd, he, rfl⟩ := link_eq_ok.mp h
  rw [Row.link_isSome]
  unfold IsWhole parts
  simp only [List.forall_mem_cons, Json.cell_isSome ha, Json.cell_isSome hb, Json.cell_isSome hc,
    Json.cell_isSome hd, Json.cell_isSome he, List.not_mem_nil, false_imp_iff, implies_true, and_true]

end NewReference

/-! ## Rows for any request -/

/-- A row has the id of the reference that it was written from. -/
theorem Row.id_of_written {ref : Reference} {number : Nat} {row : Row}
    (h : ofReference ref number = .ok (some row)) : row.id = ref.id := by
  obtain ⟨-, _, link?, -, hrow⟩ := ofReference_eq_ok h
  obtain ⟨_, -, rfl⟩ := Option.map_eq_some_iff.mp hrow.symm
  rfl

namespace Store

variable {store : Store} {issuer : Issuer} {creator : Name} {request : NewReference}

/-- What is issued for a request has the link that is asked for, if it has a row at all. -/
theorem link_of_written [IdSource] {number : Nat} {row? : Option Row}
    (h : Row.ofReference (issuer.issue creator request).1 number = .ok row?) :
    request.link? = .ok (row?.map Row.link) := by
  unfold Row.ofReference at h
  obtain ⟨sourceType, ha, h⟩ := Checked.bind_eq_ok.mp h
  obtain ⟨sourceId, hb, h⟩ := Checked.bind_eq_ok.mp h
  obtain ⟨targetType, hc, h⟩ := Checked.bind_eq_ok.mp h
  obtain ⟨targetId, hd, h⟩ := Checked.bind_eq_ok.mp h
  obtain ⟨relationship, he, h⟩ := Checked.bind_eq_ok.mp h
  obtain ⟨⟨⟩, -, h⟩ := Checked.bind_eq_ok.mp h
  obtain ⟨creator, -, h⟩ := Checked.bind_eq_ok.mp h
  rw [Checked.pure_eq_ok] at h
  refine NewReference.link_eq_ok.mpr ⟨_, _, _, _, _, ha, hb, hc, hd, he, ?_⟩
  rw [← h]
  cases Row.link? sourceType sourceId targetType targetId relationship <;> rfl

/-- Looking for the link that is asked for. -/
theorem getByLink_eq (hopen : store.isOpen = true) {found : Option LinkKey}
    (h : request.link? = .ok found) :
    store.getByLink request.sourceType request.sourceId request.targetType request.targetId
      request.relationship = (found.bind store.table.byLink?).mapM Row.reference := by
  obtain ⟨_, _, _, _, _, ha, hb, hc, hd, he, rfl⟩ := NewReference.link_eq_ok.mp h
  unfold getByLink
  rw [needOpen_eq hopen, Json.cell_eq_ok ha 1, Json.cell_eq_ok hb 2, Json.cell_eq_ok hc 3,
    Json.cell_eq_ok hd 4, Json.cell_eq_ok he 5]
  rfl

/-! ## How creating ends -/

/-- How creating a reference ends: with a fault; with a new row for what was issued; or without one, and
then what is found by the link is answered, or else what was issued. -/
inductive Ends (store : Store) (issued : Reference) : Store → Checked Reference → Prop
  | faults (later : Issuer) (fault : Fault) :
      Ends store issued { store with issuer := later } (.error fault)
  | adds (later : Issuer) (row : Row) :
      Row.ofReference issued store.table.nextNumber = .ok (some row) →
      Ends store issued { store with issuer := later, table := ⟨store.table.rows ++ [row]⟩ } (.ok issued)
  | keeps (later : Issuer) (row? : Option Row) (found : Option Reference) :
      Row.ofReference issued store.table.nextNumber = .ok row? →
      row?.bind store.table.insert? = none →
      ((row?.map Row.link).bind store.table.byLink?).mapM Row.reference = .ok found →
      Ends store issued { store with issuer := later } (.ok (found.getD issued))

theorem create_ends [IdSource] (store : Store) (request : NewReference) :
    store.Ends (store.issuer.issue store.creator request).1 (store.create request).1
      (store.create request).2 := by
  set issued := (store.issuer.issue store.creator request).1
  set later := (store.issuer.issue store.creator request).2
  have hissue : store.issuer.issue store.creator request = (issued, later) := rfl
  rcases create_cases store hissue with
    ⟨fault, hcreate⟩ | ⟨hopen, hstored, hcreate⟩ | ⟨table, hstored, hcreate⟩
  · rw [hcreate]
    exact .faults later fault
  · obtain ⟨-, row?, hrow, hnone⟩ := insert_eq_ok.mp hstored
    have hget := @getByLink_eq { store with issuer := later } request hopen _ (link_of_written hrow)
    rw [show Store.getByLink { store with issuer := later } issued.sourceType issued.sourceId
      issued.targetType issued.targetId issued.relationship = _ from hget] at hcreate
    rw [hcreate]
    dsimp only
    cases hfound : ((row?.map Row.link).bind store.table.byLink?).mapM Row.reference with
    | error fault => exact .faults later fault
    | ok found => exact .keeps later row? found hrow hnone hfound
  · obtain ⟨row, hrow, rfl⟩ := exists_row_of_insert hstored
    rw [hcreate]
    exact .adds later row hrow

/-- A fault leaves the rows as they were. -/
theorem create_refused [IdSource] {fault : Fault} (h : (store.create request).2 = .error fault) :
    (store.create request).1.table = store.table := by
  have hends := store.create_ends request
  rw [h] at hends
  generalize (store.create request).1 = after at hends ⊢
  cases hends
  rfl

/-! ## What is saved -/

/-- A row that is not taken in, although its id is new, finds its link in the table. -/
theorem exists_of_insert_none {table : ReferenceTable} {row : Row} (hid : row.id ∉ table.ids)
    (h : table.insert? row = none) :
    ∃ other ∈ table.rows, other.link = row.link ∧ table.byLink? row.link = some other := by
  refine ReferenceTable.exists_byLink ?_
  by_contra hlink
  rw [ReferenceTable.insert_eq_some hid hlink] at h
  cases h

/-- Ids stay different. -/
theorem create_ids_nodup [IdSource] (hids : store.table.ids.Nodup)
    (hfresh : store.issuer.FreshFor store.table) (request : NewReference) : (store.create request).1.table.ids.Nodup := by
  have hends := store.create_ends request
  have hnew : (store.issuer.issue store.creator request).1.id ∉ store.table.ids := hfresh.next_not_mem
  generalize (store.create request).1 = after at hends ⊢
  generalize (store.create request).2 = answer at hends
  cases hends with
  | faults => exact hids
  | keeps => exact hids
  | adds later row hrow =>
    show ((store.table.rows ++ [row]).map Row.id).Nodup
    rw [List.map_append]
    refine hids.append (List.nodup_singleton _) (List.disjoint_singleton.mpr ?_)
    rwa [Row.id_of_written hrow]

/-- What is answered to a request for a whole link has a row of that link. -/
theorem create_saved [IdSource] (hfresh : store.issuer.FreshFor store.table) (hwhole : request.IsWhole)
    {ref : Reference} (h : (store.create request).2 = .ok ref) :
    ∃ row ∈ (store.create request).1.table.rows, row.id = ref.id ∧
      request.link? = .ok (some row.link) := by
  have hends := store.create_ends request
  have hnew : (store.issuer.issue store.creator request).1.id ∉ store.table.ids := hfresh.next_not_mem
  rw [h] at hends
  generalize (store.create request).1 = after at hends ⊢
  cases hends with
  | adds later row hrow =>
    refine ⟨row, List.mem_append_right _ (List.mem_singleton.mpr rfl), ?_, link_of_written hrow⟩
    exact Row.id_of_written hrow
  | keeps later row? found hrow hnone hfound =>
    have hlink := link_of_written hrow
    obtain ⟨row, rfl⟩ : ∃ row, row? = some row := by
      have hsome := (NewReference.link_isSome hlink).mpr hwhole
      rwa [Option.isSome_map, Option.isSome_iff_exists] at hsome
    rw [← Row.id_of_written hrow] at hnew
    obtain ⟨other, hother, hsame, hby⟩ := exists_of_insert_none hnew hnone
    rw [Option.map_some, Option.bind_some, hby, Option.mapM_some] at hfound
    obtain ⟨kept, hkept, rfl⟩ := Checked.map_eq_ok.mp hfound
    refine ⟨other, hother, (Row.reference_id hkept).symm, ?_⟩
    rw [hlink, hsame]
    rfl

/-- A request for a link with a missing part adds nothing, and what is answered to it is what was
issued. -/
theorem create_unsaved [IdSource] (hwhole : ¬ request.IsWhole) :
    (store.create request).1.table = store.table ∧
      ∀ ref, (store.create request).2 = .ok ref →
        ref = (store.issuer.issue store.creator request).1 := by
  have hends := store.create_ends request
  generalize (store.create request).1 = after at hends ⊢
  generalize (store.create request).2 = answer at hends ⊢
  cases hends with
  | faults => exact ⟨rfl, fun _ h => nomatch h⟩
  | adds later row hrow =>
    exact absurd ((NewReference.link_isSome (link_of_written hrow)).mp rfl) hwhole
  | keeps later row? found hrow hnone hfound =>
    refine ⟨rfl, fun ref h => ?_⟩
    cases row? with
    | some row => exact absurd ((NewReference.link_isSome (link_of_written hrow)).mp rfl) hwhole
    | none =>
      cases hfound
      exact (Except.ok.inj h).symm

/-- Either there is a fault and the rows stay, or exactly one row has the id of the reference that is
answered. -/
def Saves [IdSource] (store : Store) (request : NewReference) : Prop :=
  (∃ fault, (store.create request).2 = .error fault ∧ (store.create request).1.table = store.table) ∨
    ∃ ref, (store.create request).2 = .ok ref ∧ (store.create request).1.table.ids.count ref.id = 1

/-- **What creating saves.** A request for a whole link either faults and leaves the rows as they were, or
is answered with a reference of which there is exactly one row, of the link that was asked for. A request
for a link with a missing part leaves the rows as they were, and a reference that is answered to it has
no row. -/
theorem create_saves [IdSource] (hids : store.table.ids.Nodup) (hfresh : store.issuer.FreshFor store.table)
    (request : NewReference) :
    (request.IsWhole → store.Saves request ∧
      ∀ ref, (store.create request).2 = .ok ref →
        ∃ row ∈ (store.create request).1.table.rows, row.id = ref.id ∧
          request.link? = .ok (some row.link)) ∧
    (¬ request.IsWhole → (store.create request).1.table = store.table ∧
      ∀ ref, (store.create request).2 = .ok ref → ref.id ∉ (store.create request).1.table.ids) := by
  constructor
  · intro hwhole
    refine ⟨?_, fun ref h => create_saved hfresh hwhole h⟩
    cases hanswer : (store.create request).2 with
    | error fault => exact Or.inl ⟨fault, hanswer, create_refused hanswer⟩
    | ok ref =>
      obtain ⟨row, hrow, hid, -⟩ := create_saved hfresh hwhole hanswer
      refine Or.inr ⟨ref, hanswer, ?_⟩
      exact List.count_eq_one_of_mem (create_ids_nodup hids hfresh request)
        (List.mem_map.mpr ⟨row, hrow, hid⟩)
  · intro hwhole
    obtain ⟨htable, hissued⟩ := @create_unsaved store request _ hwhole
    refine ⟨htable, fun ref h => ?_⟩
    rw [htable, hissued ref h]
    exact hfresh.next_not_mem

/-- A store with one row, whose source has a number for an id. -/
def ledger : Store where
  table := ⟨[⟨4, "imported", ⟨⟨"task", "5"⟩, ⟨"rule", "R"⟩, "governed_by"⟩, none, 10, none⟩]⟩
  issuer := { Issuer.start with issued := 1, seconds := 2000 }
  creator := "system"
  isOpen := true

/-- The link of that row, the number given as a number. -/
def numberedLink : NewReference := ⟨"task", .int 5, "rule", "R", "governed_by", .null, .null⟩

/-- A link from nowhere. -/
def sourceless : NewReference := ⟨.null, "T-1", "task", "T-2", "blocks", .null, .null⟩

theorem create_saves_ledger :
    ledger.table.ids.Nodup ∧ ledger.issuer.FreshFor ledger.table ∧
    numberedLink.IsWhole ∧ ¬ sourceless.IsWhole ∧
    ledger.Saves numberedLink ∧
    (∃ ref, (ledger.create numberedLink).2 = .ok ref ∧ ref.id = "imported" ∧
      ∃ row ∈ (ledger.create numberedLink).1.table.rows, row.id = ref.id ∧
        numberedLink.link? = .ok (some row.link)) ∧
    (ledger.create sourceless).1.table = ledger.table := by
  have hids : ledger.table.ids.Nodup := List.nodup_singleton _
  have hfresh : ledger.issuer.FreshFor ledger.table := Issuer.freshFor_of_foreign (by decide)
  have hwhole : numberedLink.IsWhole := by decide
  have hpart : ¬ sourceless.IsWhole := by decide
  obtain ⟨hsaves, hrow⟩ := (create_saves hids hfresh numberedLink).1 hwhole
  obtain ⟨hkept, -⟩ := (create_saves hids hfresh sourceless).2 hpart
  exact ⟨hids, hfresh, hwhole, hpart, hsaves, ⟨_, rfl, rfl, hrow _ rfl⟩, hkept⟩

/-- A store without rows. -/
def unused : Store := ⟨.empty, .start, "system", true⟩

/-- Without a part of its link a reference is answered and not saved. -/
theorem create_loses :
    unused.table.ids.Nodup ∧ unused.issuer.FreshFor unused.table ∧
    (∃ ref, (unused.create sourceless).2 = .ok ref) ∧ (unused.create sourceless).1.table.rows = [] ∧
    ¬ unused.Saves sourceless := by
  refine ⟨.nil, fun _ _ h => List.not_mem_nil h, ⟨_, rfl⟩, rfl, ?_⟩
  rintro (⟨fault, hfault, -⟩ | ⟨ref, -, hcount⟩)
  · cases hfault
  · cases hcount

end Store

end ChangeImpact
