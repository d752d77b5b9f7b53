import ChangeImpact.Proofs.Reference.Rows

/-!
# What transactions leave behind

Statements never touch the committed table (`insert_committed`, `insertEach_committed`), so that a fault
leaves the rows as they were. Without one the working table is committed, and what it holds is told by the
insertions alone (`insertAll`), one after the other on tables:

> `insertEach_eq`: the statements of a batch make of the working table what the insertions make of it;
> `createAll_of_error`, `createAll_of_ok`: a batch ends with the table it began with, or with the one that
> the insertions make;
> `create_of_error`, `create_of_none`, `create_of_some`: the same for a single reference.
-/

namespace ChangeImpact

/-- One id is used up by every request, whatever becomes of it. -/
theorem Issuer.issue_eq [IdSource] (issuer : Issuer) (creator : Name) (request : NewReference) :
    issuer.issue creator request = ((issuer.issue creator request).1, issuer.next) := rfl

namespace Store

variable {store : Store} {table : ReferenceTable} {transaction : Transaction} {issuer later : Issuer}
  {creator : Name} {request : NewReference} {rest : List NewReference} {ref : Reference}

/-! ## One insertion -/

/-- There is no fault exactly if there is a document to store and the reference has a row, or is known to
have none. -/
theorem insert_eq_ok {stored : Option ReferenceTable} :
    insert? table request ref = .ok stored ↔ request.metadata.needDocument = .ok () ∧
      ∃ row?, Row.ofReference ref table.nextNumber = .ok row? ∧ row?.bind table.insert? = stored := by
  unfold insert?
  simp only [Checked.bind_eq_ok, Checked.pure_eq_ok]
  constructor
  · intro hgiven
    obtain ⟨⟨⟩, hdocument, hrow⟩ := hgiven
    exact ⟨hdocument, hrow⟩
  · intro hgiven
    exact ⟨(), hgiven⟩

/-- A fault leaves the transaction where it was. -/
theorem insert_of_error {fault : Fault} (h : insert? transaction.table request ref = .error fault) :
    insert transaction request ref = (transaction, .error fault) := by
  rw [insert, h]

/-- What is ignored leaves the working table as it was. -/
theorem insert_of_none (h : insert? transaction.table request ref = .ok none) :
    insert transaction request ref = (transaction.put transaction.table, .ok false) := by
  rw [insert, h]

/-- What is stored goes into the working table. -/
theorem insert_of_some (h : insert? transaction.table request ref = .ok (some table)) :
    insert transaction request ref = (transaction.put table, .ok true) := by
  rw [insert, h]

/-- What was committed is not touched. -/
theorem insert_committed (transaction : Transaction) (request : NewReference) (ref : Reference) :
    (insert transaction request ref).1.committed = transaction.committed := by
  cases hstored : insert? transaction.table request ref with
  | error fault => rw [insert_of_error hstored]
  | ok stored =>
    cases stored with
    | none =>
      rw [insert_of_none hstored]
      rfl
    | some table =>
      rw [insert_of_some hstored]
      rfl

/-! ## Many insertions -/

/-- Inserts the references of some requests, one after the other: the issuer, the table and the references
that were stored. -/
def insertAll [IdSource] (creator : Name) : ReferenceTable → Issuer → List NewReference →
    Issuer × Checked (ReferenceTable × List Reference)
  | table, issuer, [] => (issuer, .ok (table, []))
  | table, issuer, request :: rest =>
    let (ref, issuer) := issuer.issue creator request
    match insert? table request ref with
    | .error fault => (issuer, .error fault)
    | .ok none => insertAll creator table issuer rest
    | .ok (some table) =>
      let (issuer, result) := insertAll creator table issuer rest
      (issuer, result.map fun (table, refs) => (table, ref :: refs))

/-- A fault ends everything, but the id is used up. -/
theorem insertAll_cons_of_error [IdSource] {fault : Fault}
    (h : insert? table request (issuer.issue creator request).1 = .error fault) :
    insertAll creator table issuer (request :: rest) =
      (issuer.next, .error fault) := by
  rw [insertAll, issuer.issue_eq]
  dsimp only
  rw [h]

/-- A reference that does not get into the table leaves only its id used up. -/
theorem insertAll_cons_of_none [IdSource]
    (h : insert? table request (issuer.issue creator request).1 = .ok none) :
    insertAll creator table issuer (request :: rest) =
      insertAll creator table issuer.next rest := by
  rw [insertAll, issuer.issue_eq]
  dsimp only
  rw [h]

/-- A reference that gets into the table is answered before the others. -/
theorem insertAll_cons_of_some [IdSource] {after : ReferenceTable}
    (h : insert? table request (issuer.issue creator request).1 = .ok (some after))
    {result : Checked (ReferenceTable × List Reference)}
    (hrest : insertAll creator after issuer.next rest =
      (later, result)) :
    insertAll creator table issuer (request :: rest) =
      (later, result.map fun found => (found.1, (issuer.issue creator request).1 :: found.2)) := by
  rw [insertAll, issuer.issue_eq]
  dsimp only
  rw [h]
  dsimp only
  rw [hrest]

/-- If all references were inserted, so was the first one, and then the others. -/
theorem insertAll_cons_eq_ok [IdSource] {result : ReferenceTable × List Reference}
    (h : (insertAll creator table issuer (request :: rest)).2 = .ok result) :
    ∃ stored others, insert? table request (issuer.issue creator request).1 = .ok stored ∧
      (insertAll creator (stored.getD table) issuer.next rest).2 =
        .ok (result.1, others) := by
  cases hstored : insert? table request (issuer.issue creator request).1 with
  | error fault =>
    rw [insertAll_cons_of_error hstored] at h
    cases h
  | ok stored =>
    cases stored with
    | none =>
      rw [insertAll_cons_of_none hstored] at h
      exact ⟨none, result.2, rfl, h⟩
    | some after =>
      rw [insertAll_cons_of_some hstored rfl] at h
      obtain ⟨found, hrest, rfl⟩ := Checked.map_eq_ok.mp h
      exact ⟨some after, found.2, rfl, hrest⟩

/-- What was committed is not touched by a whole batch either. -/
theorem insertEach_committed [IdSource] (creator : Name) (transaction : Transaction) (issuer : Issuer)
    (requests : List NewReference) :
    (insertEach creator transaction issuer requests).1.committed = transaction.committed := by
  induction requests generalizing transaction issuer with
  | nil => rfl
  | cons request rest ih =>
    unfold insertEach
    dsimp only
    have hfirst := insert_committed transaction request (issuer.issue creator request).1
    split
    next => exact hfirst
    next => exact (ih _ _).trans hfirst

/-- **What a batch makes of the working table.** It ends with the ids, the fault or the answer and the
table of the insertions. -/
theorem insertEach_eq [IdSource] (creator : Name) (transaction : Transaction) (issuer : Issuer)
    (requests : List NewReference) :
    ((insertEach creator transaction issuer requests).2.1,
      (insertEach creator transaction issuer requests).2.2.map fun refs =>
        ((insertEach creator transaction issuer requests).1.table, refs)) =
      insertAll creator transaction.table issuer requests := by
  induction requests generalizing transaction issuer with
  | nil => rfl
  | cons request rest ih =>
    unfold insertEach
    rw [issuer.issue_eq]
    dsimp only
    cases hstored : insert? transaction.table request (issuer.issue creator request).1 with
    | error fault =>
      rw [insert_of_error hstored, insertAll_cons_of_error hstored]
      rfl
    | ok stored =>
      cases stored with
      | none =>
        -- the rest of the batch goes on from the working table as it was
        have hothers : _ = insertAll creator transaction.table _ rest :=
          ih (transaction.put transaction.table) issuer.next
        rw [insert_of_none hstored, insertAll_cons_of_none hstored, ← hothers]
        dsimp only
        cases (insertEach creator (transaction.put transaction.table) _ rest).2.2 <;> rfl
      | some after =>
        have hothers : _ = insertAll creator after _ rest :=
          ih (transaction.put after) issuer.next
        rw [insert_of_some hstored, insertAll_cons_of_some hstored hothers.symm]
        dsimp only
        cases (insertEach creator (transaction.put after) _ rest).2.2 <;> rfl

/-! ## What stays in the store -/

/-- Statements without a fault commit what they made of the table. -/
theorem transact_of_ok {α : Type} (hopen : store.isOpen = true)
    {statements : Transaction → Issuer → Transaction × Issuer × Checked α} {a : α}
    (h : statements (.start store.table) store.issuer = (transaction, later, .ok a)) :
    store.transact statements =
      ({ store with issuer := later, table := transaction.table }, .ok a) := by
  rw [transact, needOpen_eq hopen, h]
  rfl

/-- Of a transaction that a fault ends, only the ids that it used are left. -/
theorem transact_of_error {α : Type} (hopen : store.isOpen = true)
    {statements : Transaction → Issuer → Transaction × Issuer × Checked α} {fault : Fault}
    (h : statements (.start store.table) store.issuer = (transaction, later, .error fault))
    (hcommitted : transaction.committed = store.table) :
    store.transact statements = ({ store with issuer := later }, .error fault) := by
  rw [transact, needOpen_eq hopen, h]
  show ({ store with issuer := later, table := transaction.committed }, _) = _
  rw [hcommitted]

/-- No transaction begins in a closed store. -/
theorem transact_of_closed {α : Type} (hclosed : store.isOpen = false)
    (statements : Transaction → Issuer → Transaction × Issuer × Checked α) :
    store.transact statements = (store, .error .closedDatabase) := by
  unfold transact needOpen guardThat
  rw [hclosed]
  rfl

/-! ## Deleting -/

/-- What meets the condition is erased. -/
theorem eraseWhere_of_ok (hopen : store.isOpen = true) (p : Row → Bool) :
    store.eraseWhere (.ok p) =
      ({ store with table := store.table.erase p }, .ok (store.table.any p)) := by
  unfold eraseWhere
  exact @transact_of_ok store (Transaction.erase (.start store.table) p).1 _ _ hopen _ _ rfl

/-- How deleting ends: with a fault, or without the rows that are to be deleted. -/
theorem eraseWhere_cases (store : Store) (condition : Checked (Row → Bool)) :
    (∃ fault, store.eraseWhere condition = (store, .error fault)) ∨
    ∃ p, store.eraseWhere condition =
      ({ store with table := store.table.erase p }, .ok (store.table.any p)) := by
  by_cases hopen : store.isOpen = true
  · cases condition with
    | error fault => exact .inl ⟨fault, transact_of_error hopen rfl rfl⟩
    | ok p => exact .inr ⟨p, eraseWhere_of_ok hopen p⟩
  · exact .inl ⟨_, transact_of_closed (Bool.eq_false_iff.mpr hopen) _⟩

/-! ## One reference -/

section Create

variable [IdSource] (hissue : store.issuer.issue store.creator request = (ref, later))

include hissue

/-- A closed store uses up an id for what it refuses. -/
theorem create_of_closed (hclosed : store.isOpen = false) :
    store.create request = ({ store with issuer := later }, .error .closedDatabase) := by
  unfold create
  rw [hissue]
  dsimp only
  rw [@transact_of_closed { store with issuer := later } _ hclosed]

variable (hopen : store.isOpen = true)

include hopen

/-- A fault uses up an id and changes no row. -/
theorem create_of_error {fault : Fault} (h : insert? store.table request ref = .error fault) :
    store.create request = ({ store with issuer := later }, .error fault) := by
  have hinsert := @insert_of_error (.start store.table) request ref fault h
  unfold create
  rw [hissue]
  dsimp only
  rw [@transact_of_error { store with issuer := later } (.start store.table) later _ hopen _ fault
    (by rw [hinsert]) rfl]

/-- What is not stored is looked for by its link. -/
theorem create_of_none (hnone : insert? store.table request ref = .ok none) :
    store.create request = ({ store with issuer := later },
      (Store.getByLink { store with issuer := later } ref.sourceType ref.sourceId ref.targetType
        ref.targetId ref.relationship).map fun found => found.getD ref) := by
  have hinsert := @insert_of_none (.start store.table) request ref hnone
  unfold create
  rw [hissue]
  dsimp only
  rw [@transact_of_ok { store with issuer := later } _ later _ hopen _ false (by rw [hinsert])]
  rfl

/-- What is stored is answered as it was issued. -/
theorem create_of_some {table : ReferenceTable}
    (hsome : insert? store.table request ref = .ok (some table)) :
    store.create request = ({ store with issuer := later, table }, .ok ref) := by
  have hinsert := @insert_of_some table (.start store.table) request ref hsome
  unfold create
  rw [hissue]
  dsimp only
  rw [@transact_of_ok { store with issuer := later } _ later _ hopen _ true (by rw [hinsert])]
  rfl

end Create

/-- How creating a reference ends: with a fault; with no row, and then the link is looked for; or with the
table that has the reference. -/
theorem create_cases [IdSource] (store : Store) {request : NewReference} {ref : Reference} {later : Issuer}
    (hissue : store.issuer.issue store.creator request = (ref, later)) :
    (∃ fault, store.create request = ({ store with issuer := later }, .error fault)) ∨
    (store.isOpen = true ∧ insert? store.table request ref = .ok none ∧
      store.create request = ({ store with issuer := later },
        (Store.getByLink { store with issuer := later } ref.sourceType ref.sourceId ref.targetType
          ref.targetId ref.relationship).map fun found => found.getD ref)) ∨
    ∃ table, insert? store.table request ref = .ok (some table) ∧
      store.create request = ({ store with issuer := later, table }, .ok ref) := by
  by_cases hopen : store.isOpen = true
  · cases hstored : insert? store.table request ref with
    | error fault => exact .inl ⟨fault, create_of_error hissue hopen hstored⟩
    | ok stored =>
      cases stored with
      | none => exact .inr (.inl ⟨hopen, rfl, create_of_none hissue hopen hstored⟩)
      | some table => exact .inr (.inr ⟨table, rfl, create_of_some hissue hopen hstored⟩)
  · exact .inl ⟨_, create_of_closed hissue (Bool.eq_false_iff.mpr hopen)⟩

/-! ## Many references -/

section CreateAll

variable {requests : List NewReference}

/-- A closed store begins no batch. -/
theorem createAll_of_closed [IdSource] (hclosed : store.isOpen = false) (requests : List NewReference) :
    store.createAll requests = (store, .error .closedDatabase) := transact_of_closed hclosed _

variable (hopen : store.isOpen = true)

include hopen

/-- A fault takes the whole batch back. -/
theorem createAll_of_error [IdSource] {fault : Fault}
    (h : insertAll store.creator store.table store.issuer requests = (later, .error fault)) :
    store.createAll requests = ({ store with issuer := later }, .error fault) := by
  have hcommitted := insertEach_committed store.creator (.start store.table) store.issuer requests
  have hall := (insertEach_eq store.creator (.start store.table) store.issuer requests).trans h
  unfold createAll
  cases hended : insertEach store.creator (.start store.table) store.issuer requests with
  | mk transaction rest =>
    obtain ⟨issuer, created⟩ := rest
    rw [hended] at hcommitted hall
    obtain ⟨rfl, hcreated⟩ := Prod.mk.inj hall
    cases created with
    | error found =>
      cases hcreated
      exact transact_of_error hopen hended hcommitted
    | ok refs => cases hcreated

/-- Without one the batch ends with all of its rows. -/
theorem createAll_of_ok [IdSource] {refs : List Reference}
    (h : insertAll store.creator store.table store.issuer requests = (later, .ok (table, refs))) :
    store.createAll requests = ({ store with issuer := later, table }, .ok refs) := by
  have hall := (insertEach_eq store.creator (.start store.table) store.issuer requests).trans h
  unfold createAll
  cases hended : insertEach store.creator (.start store.table) store.issuer requests with
  | mk transaction rest =>
    obtain ⟨issuer, created⟩ := rest
    rw [hended] at hall
    obtain ⟨rfl, hcreated⟩ := Prod.mk.inj hall
    cases created with
    | error found => cases hcreated
    | ok found =>
      cases hcreated
      exact transact_of_ok hopen hended

end CreateAll

/-- How a batch ends: it does not begin in a closed store, it ends with the fault of an insertion, or all
insertions were made. -/
theorem createAll_cases [IdSource] (store : Store) (requests : List NewReference) :
    store.createAll requests = (store, .error .closedDatabase) ∨
    (∃ later fault,
      insertAll store.creator store.table store.issuer requests = (later, .error fault) ∧
      store.createAll requests = ({ store with issuer := later }, .error fault)) ∨
    store.isOpen = true ∧ ∃ later table refs,
      insertAll store.creator store.table store.issuer requests = (later, .ok (table, refs)) ∧
      store.createAll requests = ({ store with issuer := later, table }, .ok refs) := by
  by_cases hopen : store.isOpen = true
  · cases hall : insertAll store.creator store.table store.issuer requests with
    | mk later result =>
      cases result with
      | error fault => exact .inr (.inl ⟨later, fault, rfl, createAll_of_error hopen hall⟩)
      | ok ended => exact .inr (.inr ⟨hopen, later, ended.1, ended.2, rfl, createAll_of_ok hopen hall⟩)
  · exact .inl (createAll_of_closed (Bool.eq_false_iff.mpr hopen) requests)

/-- All insertions are made only if documents can be written of all metadata. -/
theorem needDocument_of_insertAll [IdSource] {requests : List NewReference}
    {result : ReferenceTable × List Reference}
    (h : (insertAll creator table issuer requests).2 = .ok result) :
    ∀ request ∈ requests, request.metadata.needDocument = .ok () := by
  induction requests generalizing table issuer result with
  | nil => exact List.forall_mem_nil _
  | cons request rest ih =>
    obtain ⟨stored, others, hstored, hrest⟩ := insertAll_cons_eq_ok h
    exact List.forall_mem_cons.mpr ⟨(insert_eq_ok.mp hstored).1, ih hrest⟩

/-- **A batch that is refused.** A fault at any request leaves the rows as they were. -/
theorem createAll_refused [IdSource] {requests : List NewReference} {fault : Fault}
    (h : (store.createAll requests).2 = .error fault) :
    (store.createAll requests).1.table = store.table := by
  rcases createAll_cases store requests with
    hend | ⟨later, found, -, hend⟩ | ⟨-, later, table, refs, -, hend⟩
  · rw [hend]
  · rw [hend]
  · rw [hend] at h
    cases h

/-- **A batch that cannot be written.** Metadata of which no document can be written ends a batch with a
fault, wherever it stands among the requests, and takes all of them back. -/
theorem createAll_unwritable [IdSource] (store : Store) {requests : List NewReference}
    (hrequest : request ∈ requests) (hunwritable : request.metadata.needDocument ≠ .ok ()) :
    ∃ fault, (store.createAll requests).2 = .error fault ∧
      (store.createAll requests).1.table = store.table := by
  rcases createAll_cases store requests with
    hend | ⟨later, fault, -, hend⟩ | ⟨-, later, table, refs, hall, -⟩
  · rw [hend]
    exact ⟨_, rfl, rfl⟩
  · rw [hend]
    exact ⟨fault, rfl, rfl⟩
  · exact absurd (needDocument_of_insertAll (congrArg Prod.snd hall) request hrequest) hunwritable

example : createAll ⟨.empty, .start, "system", true⟩
    [⟨"task", "a", "task", "b", "blocks", .null, .null⟩,
      ⟨"task", "b", "task", "c", "blocks", .unwritable (.unwritable "object"), .null⟩] =
    (⟨.empty, Issuer.start.next.next, "system", true⟩, .error (.unwritable "object")) := rfl

end Store

end ChangeImpact
