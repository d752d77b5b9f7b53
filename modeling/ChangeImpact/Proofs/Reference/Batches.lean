import ChangeImpact.Proofs.Reference.Operations

/-!
# Many references at once

Creating many references at once either does nothing to the rows or does what creating them one
after the other does, without the answers for links that were there already.

> `createAll_atomic`: a fault at any request leaves the rows as they were; otherwise the store is
> the one after creating each reference by itself, the answer is made of the references for the
> links that were new at their turn, and the same requests made again add nothing.

Nothing is assumed about the rows of the store, except that the ids still to be issued are not in
it. A request whose link is there uses up an id either way, so both ways issue the same ids.
-/

namespace ChangeImpact

namespace LinkRequest

variable {issuer : Issuer} {creator : Name} {r : LinkRequest} {table : ReferenceTable}

/-- Whatever gets a row is storable. -/
theorem storable_of_insert [IdSource] {stored : Option ReferenceTable}
    (h : Store.insert? table r.request (issuer.issue creator r.request).1 = .ok stored) :
    r.Storable creator issuer.time := by
  obtain ⟨-, row?, hrow, -⟩ := Store.insert_eq_ok.mp h
  obtain ⟨htime, text, _, htext, -⟩ := Row.ofReference_eq_ok hrow
  exact ⟨htime, text, htext⟩

end LinkRequest

open ReferenceTable

namespace Store

variable {store : Store} {table : ReferenceTable} {issuer : Issuer} {creator : Name}
  {r : LinkRequest}

/-! ## One request -/

/-- A storable request for a link that is not there adds one row with the next id. -/
theorem insert_new [IdSource] (h : r.Storable creator issuer.time) (hfresh : issuer.FreshFor table)
    (hlink : r.link ∉ table.links) :
    ∃ row, insert? table r.request (issuer.issue creator r.request).1 = .ok (some ⟨table.rows ++ [row]⟩) ∧
      row.id = Issuer.idOf (issuer.issued + 1) ∧ row.link = r.link := by
  obtain ⟨row, hwritten, hid, hrow⟩ := h.exists_row table.nextNumber
  exact ⟨row, insert_eq_ok.mpr ⟨rfl, some row, hwritten,
    insert_eq_some (hid ▸ hfresh.next_not_mem) (hrow ▸ hlink)⟩, hid, hrow⟩

/-- What does not get into a table, although there is no fault, finds its link there. -/
theorem mem_links_of_insert [IdSource] (hfresh : issuer.FreshFor table)
    (h : insert? table r.request (issuer.issue creator r.request).1 = .ok none) :
    r.link ∈ table.links := by
  by_contra hlink
  obtain ⟨row, hsome, -⟩ := insert_new (LinkRequest.storable_of_insert h) hfresh hlink
  rw [h] at hsome
  cases hsome

/-- Ids are used up whether or not there is a fault, and no time passes. -/
theorem exists_issued_insertAll [IdSource] (creator : Name) (table : ReferenceTable) (issuer : Issuer)
    (requests : List NewReference) : ∃ count, issuer.issued ≤ count ∧
      (insertAll creator table issuer requests).1 = { issuer with issued := count } := by
  induction requests generalizing table issuer with
  | nil => exact ⟨_, Nat.le_refl _, rfl⟩
  | cons request rest ih =>
    have hnext : ∀ table, ∃ count, issuer.issued ≤ count ∧
        (insertAll creator table issuer.next rest).1 = { issuer with issued := count } := by
      intro table
      obtain ⟨count, hissued, hlater⟩ := ih table issuer.next
      exact ⟨count, (Nat.le_succ _).trans hissued, hlater⟩
    cases hstored : insert? table request (issuer.issue creator request).1 with
    | error fault =>
      rw [insertAll_cons_of_error hstored]
      exact ⟨_, Nat.le_succ _, rfl⟩
    | ok stored =>
      cases stored with
      | none =>
        rw [insertAll_cons_of_none hstored]
        exact hnext table
      | some after =>
        rw [insertAll_cons_of_some hstored rfl]
        exact hnext after

/-! ## One after the other -/

/-- The stores in which some requests have their turn when they are made one after the other, each
with its request. -/
def turns [IdSource] : Store → List LinkRequest → List (Store × LinkRequest)
  | _, [] => []
  | store, r :: rest => (store, r) :: turns (store.create r.request).1 rest

/-- The store after some requests that are made one after the other. -/
def createEach [IdSource] (store : Store) (requests : List LinkRequest) : Store :=
  requests.foldl (fun store r => (store.create r.request).1) store

/-- The turns at which the link of the request is not there. -/
def newTurns [IdSource] (store : Store) (requests : List LinkRequest) : List (Store × LinkRequest) :=
  (store.turns requests).filter fun turn => turn.2.link ∉ turn.1.table.links

/-- A turn at which the link is there adds nothing to the answer. -/
theorem newTurns_of_mem [IdSource] (rest : List LinkRequest) (hlink : r.link ∈ store.table.links) :
    store.newTurns (r :: rest) = (store.create r.request).1.newTurns rest := by
  unfold newTurns
  rw [turns, List.filter_cons_of_neg (by simpa using hlink)]

theorem newTurns_of_not_mem [IdSource] (rest : List LinkRequest) (hlink : r.link ∉ store.table.links) :
    store.newTurns (r :: rest) = (store, r) :: (store.create r.request).1.newTurns rest := by
  unfold newTurns
  rw [turns, List.filter_cons_of_pos (by simpa using hlink)]

/-- Only storable requests are inserted. -/
theorem storable_of_insertAll [IdSource] (requests : List LinkRequest) {table : ReferenceTable}
    {issuer : Issuer} {result : ReferenceTable × List Reference}
    (h : (insertAll creator table issuer (requests.map LinkRequest.request)).2 = .ok result) :
    ∀ r ∈ requests, r.Storable creator issuer.time := by
  induction requests generalizing table issuer result with
  | nil => exact List.forall_mem_nil _
  | cons r rest ih =>
    obtain ⟨stored, others, hstored, hrest⟩ := insertAll_cons_eq_ok h
    exact List.forall_mem_cons.mpr ⟨LinkRequest.storable_of_insert hstored,
      @ih _ issuer.next _ hrest⟩

/-- Of requests for links that are all there, none adds a row. -/
theorem insertAll_known [IdSource] (requests : List LinkRequest)
    (hstorable : ∀ r ∈ requests, r.Storable creator issuer.time)
    (hlinks : ∀ r ∈ requests, r.link ∈ table.links) :
    ∃ later, insertAll creator table issuer (requests.map LinkRequest.request) =
      (later, .ok (table, [])) := by
  induction requests generalizing issuer with
  | nil => exact ⟨issuer, rfl⟩
  | cons r rest ih =>
    obtain ⟨hr, hrest⟩ := List.forall_mem_cons.mp hstorable
    obtain ⟨hlink, hothers⟩ := List.forall_mem_cons.mp hlinks
    rw [List.map_cons, insertAll_cons_of_none (insert_known hr hlink)]
    exact @ih issuer.next hrest hothers

/-- **One after the other.** Storable requests are inserted all at once; the rows are those that
creating one after the other gives, and the answer is what creating answers at the new turns. -/
theorem insertAll_createEach [IdSource] (requests : List LinkRequest) {store : Store}
    (hopen : store.isOpen = true) (hfresh : store.issuer.FreshFor store.table)
    (hstorable : ∀ r ∈ requests, r.Storable store.creator store.issuer.time) :
    ∃ later table refs,
      insertAll store.creator store.table store.issuer (requests.map LinkRequest.request) =
        (later, .ok (table, refs)) ∧
      store.createEach requests = { store with issuer := later, table } ∧
      later.time = store.issuer.time ∧
      List.Forall₂ (fun turn ref => (turn.1.create turn.2.request).2 = .ok ref)
        (store.newTurns requests) refs ∧
      store.table.links ⊆ table.links ∧ ∀ r ∈ requests, r.link ∈ table.links := by
  induction requests generalizing store with
  | nil => exact ⟨_, _, [], rfl, rfl, rfl, .nil, List.Subset.refl _, List.forall_mem_nil _⟩
  | cons r rest ih =>
    obtain ⟨hr, hrest⟩ := List.forall_mem_cons.mp hstorable
    by_cases hlink : r.link ∈ store.table.links
    · -- the id is used up and nothing else happens
      have hnone := insert_known hr hlink
      have hcreate := congrArg Prod.fst (create_of_none rfl hopen hnone)
      obtain ⟨later, table, refs, hall, heach, htime, hanswers, hkept, hlinks⟩ :=
        @ih { store with issuer := store.issuer.next } hopen
          hfresh.next hrest
      refine ⟨later, table, refs, ?_, ?_, htime, ?_, hkept, ?_⟩
      · rw [List.map_cons, insertAll_cons_of_none hnone]
        exact hall
      · rw [createEach, List.foldl_cons, hcreate]
        exact heach
      · rw [newTurns_of_mem rest hlink, hcreate]
        exact hanswers
      · exact List.forall_mem_cons.mpr ⟨hkept hlink, hlinks⟩
    · -- a row is added, and creating answers its reference
      obtain ⟨row, hsome, hid, hrow⟩ := insert_new hr hfresh hlink
      have hcreate := create_of_some rfl hopen hsome
      have hadded : store.table.links ++ [r.link] = links ⟨store.table.rows ++ [row]⟩ := by
        unfold links
        rw [List.map_append, List.map_singleton, hrow]
      obtain ⟨later, table, refs, hall, heach, htime, hanswers, hkept, hlinks⟩ :=
        @ih { store with
          issuer := store.issuer.next
          table := ⟨store.table.rows ++ [row]⟩ } hopen (hfresh.append hid) hrest
      have hkept : store.table.links ++ [r.link] ⊆ table.links := hadded ▸ hkept
      refine ⟨later, table, (store.issuer.issue store.creator r.request).1 :: refs, ?_, ?_, htime, ?_,
        fun link h => hkept (List.mem_append_left _ h), ?_⟩
      · rw [List.map_cons, insertAll_cons_of_some hsome hall]
        rfl
      · rw [createEach, List.foldl_cons, hcreate]
        exact heach
      · rw [newTurns_of_not_mem rest hlink, hcreate]
        exact .cons (congrArg Prod.snd hcreate) hanswers
      · exact List.forall_mem_cons.mpr
          ⟨hkept (List.mem_append_right _ (List.mem_singleton.mpr rfl)), hlinks⟩

/-! ## All at once -/

/-- There is an answer to many requests only if all of them were inserted. -/
theorem createAll_eq_ok [IdSource] {requests : List NewReference} {refs : List Reference}
    (h : (store.createAll requests).2 = .ok refs) :
    store.isOpen = true ∧ ∃ later table,
      insertAll store.creator store.table store.issuer requests = (later, .ok (table, refs)) ∧
      (store.createAll requests).1 = { store with issuer := later, table } := by
  rcases createAll_cases store requests with
    hend | ⟨later, fault, -, hend⟩ | ⟨hopen, later, table, found, hall, hend⟩
  · rw [hend] at h
    cases h
  · rw [hend] at h
    cases h
  · rw [hend] at h ⊢
    cases h
    exact ⟨hopen, later, table, hall, rfl⟩

/-- Requests for links that are all there add nothing. -/
theorem createAll_known [IdSource] (hopen : store.isOpen = true) {requests : List LinkRequest}
    (hstorable : ∀ r ∈ requests, r.Storable store.creator store.issuer.time)
    (hlinks : ∀ r ∈ requests, r.link ∈ store.table.links) :
    (store.createAll (requests.map LinkRequest.request)).2 = .ok [] ∧
      (store.createAll (requests.map LinkRequest.request)).1.table = store.table := by
  obtain ⟨later, hall⟩ := insertAll_known requests hstorable hlinks
  rw [createAll_of_ok hopen hall]
  exact ⟨rfl, rfl⟩

/-- **All or nothing.** A fault leaves the rows as they were. Otherwise the store is the one after
creating the references one after the other, the answer is made of what creating answers for links
that are new at their turn, and the same requests made again, at whatever time, add nothing. -/
theorem createAll_atomic [IdSource] (store : Store) :
    (∀ (requests : List NewReference) (fault : Fault),
      (store.createAll requests).2 = .error fault →
        (store.createAll requests).1.table = store.table) ∧
    ∀ (requests : List LinkRequest) (refs : List Reference),
      store.issuer.FreshFor store.table →
      (store.createAll (requests.map LinkRequest.request)).2 = .ok refs →
        (store.createAll (requests.map LinkRequest.request)).1 = store.createEach requests ∧
        List.Forall₂ (fun turn ref => (turn.1.create turn.2.request).2 = .ok ref)
          (store.newTurns requests) refs ∧
        ∀ time, time = store.issuer.time ∨ fitsWord time = true →
          let after := store.createEach requests
          let later := { after with issuer := after.issuer.atTime time }
          (later.createAll (requests.map LinkRequest.request)).2 = .ok [] ∧
            (later.createAll (requests.map LinkRequest.request)).1.table = after.table := by
  refine ⟨fun requests fault => createAll_refused, ?_⟩
  intro requests refs hfresh h
  obtain ⟨hopen, later, table, hall, hafter⟩ := createAll_eq_ok h
  have hstorable := storable_of_insertAll requests (congrArg Prod.snd hall)
  obtain ⟨later', table', refs', hall', heach, htime, hanswers, -, hlinks⟩ :=
    insertAll_createEach requests hopen hfresh hstorable
  rw [hall] at hall'
  cases hall'
  refine ⟨hafter.trans heach.symm, hanswers, ?_⟩
  intro time hsame
  rw [heach]
  -- the requests can be stored at the other time as well, and find their links there
  refine @createAll_known ⟨table, later.atTime time, store.creator, store.isOpen⟩ _ hopen _
    (fun r hr => ⟨?_, (hstorable r hr).2⟩) hlinks
  rw [Issuer.time_atTime]
  rcases hsame with rfl | hfits
  · exact (hstorable r hr).1
  · exact hfits

/-- A store with one reference, the first that was issued. -/
def backlog : Store where
  table := ⟨[⟨1, "ref-0000000000000001", ⟨⟨"task", "a"⟩, ⟨"task", "b"⟩, "blocks"⟩, none, 1000000,
    some "system"⟩]⟩
  issuer := { Issuer.start with issued := 1, seconds := 2000 }
  creator := "system"
  isOpen := true

/-- A link that is there, and two that are not, one of them asked for twice. -/
def mixed : List LinkRequest :=
  [⟨⟨⟨"task", "a"⟩, ⟨"rule", "r"⟩, "governed_by"⟩, .null, none⟩,
    ⟨⟨⟨"task", "a"⟩, ⟨"task", "b"⟩, "blocks"⟩, .obj [("n", .int 1)], some "me"⟩,
    ⟨⟨⟨"task", "a"⟩, ⟨"rule", "r"⟩, "governed_by"⟩, .arr [.int 2], none⟩,
    ⟨⟨⟨"task", "b"⟩, ⟨"task", "c"⟩, "blocks"⟩, .null, some "me"⟩]

/-- A request whose creator no row has room for. -/
def unstorable : NewReference :=
  ⟨"task", "c", "task", "d", "blocks", .null, .arr ["me"]⟩

theorem createAll_atomic_backlog :
    (backlog.createAll (mixed.map LinkRequest.request ++ [unstorable])).2 =
        .error (.unstorable 9 "list") ∧
      (backlog.createAll (mixed.map LinkRequest.request ++ [unstorable])).1.table =
        backlog.table ∧
      backlog.issuer.FreshFor backlog.table ∧
      ∃ refs, (backlog.createAll (mixed.map LinkRequest.request)).2 = .ok refs ∧
        refs.map Reference.id = ["ref-0000000000000002", "ref-0000000000000005"] ∧
        (backlog.createAll (mixed.map LinkRequest.request)).1 = backlog.createEach mixed ∧
        List.Forall₂ (fun turn ref => (turn.1.create turn.2.request).2 = .ok ref)
          (backlog.newTurns mixed) refs := by
  obtain ⟨hfault, hanswer⟩ := createAll_atomic backlog
  have hfresh : backlog.issuer.FreshFor backlog.table := by
    intro n hn hmem
    have := @Issuer.idOf_injective _ n 1 (List.mem_singleton.mp hmem)
    have : 1 < n := hn
    omega
  obtain ⟨heach, hanswers, -⟩ := hanswer mixed _ hfresh rfl
  exact ⟨rfl, hfault _ _ rfl, hfresh, _, rfl, rfl, heach, hanswers⟩

end Store

end ChangeImpact
