import ChangeImpact.Proofs.Reference.Pages

/-!
# The order of insertion

A journal is kept by whoever uses a store: what the store answers as a new reference is written
behind all others, and what is deleted is crossed out. As long as the clock never goes back, the rows
of a query are the journal read backwards:

> `run_newestFirst`: after any actions the rows, newest first, hold the references of the journal in
> exactly the reverse order, and so does every page of a query without a filter.

Rows of one time are put in the order of their numbers. A number may be that of a row which was
deleted, but only if all rows above it are gone; so numbers still rise in the order of insertion
(`InOrder`), and times never fall. `Tracks` is what ties the journal to the table: `Follows.apply` is
the step, `Follows.follow` the run.
-/

namespace ChangeImpact

/-! ## Rows and references -/

/-- The row holds the reference: it keeps the text of its metadata, which is not empty, and whatever
else is read from it is the reference. -/
structure Row.Holds (row : Row) (ref : Reference) : Prop where
  text : row.metadata = Metadata.written ref.metadata
  kept : ref.metadata = .null ∨ ref.metadata.truthy = true
  rest : row.withMetadata ref.metadata = ref

namespace Row.Holds

variable {row : Row} {ref : Reference}

/-- A row holds the id of its reference. -/
theorem id (h : row.Holds ref) : ref.id = row.id := (congrArg Reference.id h.rest).symm

/-- It holds its time. -/
theorem createdAt (h : row.Holds ref) : ref.createdAt = row.createdAt :=
  (congrArg Reference.createdAt h.rest).symm

/-- It holds its link. -/
theorem isFor (h : row.Holds ref) (link : LinkKey) : ref.isFor link = decide (row.link = link) :=
  h.rest ▸ row.isFor_withMetadata ref.metadata link

/-- The reference is read from the row if its metadata can be read from a document. -/
theorem reference (h : row.Holds ref) (hfits : ref.metadata.fits Json.maxNesting = true) :
    row.reference = .ok ref := by
  unfold Row.reference
  rw [h.text, Metadata.read_written hfits h.kept]
  exact congrArg Except.ok h.rest

end Row.Holds

open ReferenceTable

namespace Store

/-- What gets into a table is a row behind all others, which holds the reference. -/
theorem insert_holds [IdSource] {table after : ReferenceTable} {issuer : Issuer} {name : String}
    {r : LinkRequest}
    (h : insert? table r.request (issuer.issue (.str name) r.request).1 = .ok (some after)) :
    ∃ row, after = ⟨table.rows ++ [row]⟩ ∧ row.Holds (issuer.issue (.str name) r.request).1 := by
  have htime := (LinkRequest.storable_of_insert h).1
  obtain ⟨row, hwritten, -, -, -, hmetadata, hwith⟩ :=
    @LinkRequest.exists_row issuer name _ r htime table.nextNumber
  refine ⟨row, ?_, hmetadata, r.kept_issue issuer _, hwith _⟩
  obtain ⟨_, hsame, rfl⟩ := exists_row_of_insert h
  rw [hwritten, Except.ok.injEq, Option.some.injEq] at hsame
  rw [hsame]

end Store

/-! ## The journal -/

/-- A journal after the answer to a request: a reference that is not in it is new. -/
def Reference.enter (known : List Reference) : Checked Reference → List Reference
  | .ok ref => if ref.id ∈ known.map Reference.id then known else known ++ [ref]
  | .error _ => known

/-- A journal after the answer to many requests, which is made of new references. -/
def Reference.enterAll (known : List Reference) : Checked (List Reference) → List Reference
  | .ok refs => known ++ refs
  | .error _ => known

namespace Action

/-- A journal after an action, by what the store answers: new references are written behind all
others, deleted ones are crossed out. -/
def journal [IdSource] (store : Store) (known : List Reference) : Action → List Reference
  | .create r => Reference.enter known (store.create r.request).2
  | .createAll requests =>
    Reference.enterAll known (store.createAll (requests.map LinkRequest.request)).2
  | .linkFrom self text createdBy => Reference.enterAll known (store.linkFrom self text createdBy).2
  | .delete id => known.filter fun ref => ref.id ≠ id
  | .deleteLink link => known.filter fun ref => !ref.isFor link
  | .reopen _ | .clock _ => known

end Action

namespace Store

/-- The store and the journal after some actions. -/
def follow [IdSource] (store : Store) (known : List Reference) : List Action → Store × List Reference
  | [] => (store, known)
  | action :: rest => follow (action.apply store) (action.journal store known) rest

/-- The journal of a run that starts with an empty store. -/
def journal [IdSource] (creator : String) (actions : List Action) : List Reference :=
  (follow (fresh creator) [] actions).2

/-- The clock never goes back during the actions, nor before the time at which a run starts. -/
def NeverBack (actions : List Action) : Prop :=
  (Issuer.start.time :: actions.filterMap Action.time?).Pairwise (· ≤ ·)

instance (actions : List Action) : Decidable (NeverBack actions) :=
  inferInstanceAs (Decidable (List.Pairwise _ _))

/-- Keeping a journal does not change what happens to the store. -/
theorem follow_store [IdSource] (store : Store) (known : List Reference) (actions : List Action) :
    (follow store known actions).1 = actions.foldl Action.apply store := by
  induction actions generalizing store known with
  | nil => rfl
  | cons action rest ih => exact ih _ _

end Store

/-! ## What the journal keeps track of -/

/-- The rows hold the references of the journal, one by one, and were created one after the other,
the last of them not later than now. What fits is read back, where only metadata that fits is
given. -/
structure Tracks [IdSource] (fitting : Prop) (table : ReferenceTable) (issuer : Issuer)
    (known : List Reference) : Prop where
  fresh : issuer.FreshFor table
  held : List.Forall₂ Row.Holds table.rows known
  fits : fitting → ∀ ref ∈ known, ref.metadata.fits Json.maxNesting = true
  rising : table.rows.Pairwise fun a b => a.createdAt ≤ b.createdAt
  past : ∀ row ∈ table.rows, row.createdAt ≤ issuer.time

namespace Tracks

variable {fitting : Prop} {table : ReferenceTable} {issuer : Issuer} {known : List Reference}

/-- The empty table is tracked by the empty journal. -/
theorem empty [IdSource] (fitting : Prop) (issuer : Issuer) : Tracks fitting .empty issuer [] where
  fresh _ _ := List.not_mem_nil
  held := .nil
  fits _ := List.forall_mem_nil _
  rising := .nil
  past := List.forall_mem_nil _

/-- The rows have the ids of the journal. -/
theorem ids [IdSource] (h : Tracks fitting table issuer known) : known.map Reference.id = table.ids := by
  have heq : List.Forall₂ (fun row ref => ref.id = row.id) table.rows known :=
    h.held.imp fun _ _ hholds => hholds.id
  have hmap : List.Forall₂ Eq (known.map Reference.id) (table.rows.map Row.id) := by
    rw [List.forall₂_map_left_iff, List.forall₂_map_right_iff]
    exact heq.flip
  exact List.forall₂_eq_eq_eq ▸ hmap

/-- Time goes on, and ids are used up. -/
theorem later [IdSource] (h : Tracks fitting table issuer known) {later : Issuer}
    (hissued : issuer.issued ≤ later.issued) (htime : issuer.time ≤ later.time) :
    Tracks fitting table later known where
  fresh n hn := h.fresh n (Nat.lt_of_le_of_lt hissued hn)
  held := h.held
  fits := h.fits
  rising := h.rising
  past row hrow := by
    have hpast := h.past row hrow
    omega

/-- A further row is created now. -/
theorem append [IdSource] (h : Tracks fitting table issuer known) {creator : Name}
    {r : LinkRequest} {row : Row}
    (hrow : row.Holds (issuer.issue creator r.request).1) (hfits : fitting → r.Fits) :
    Tracks fitting ⟨table.rows ++ [row]⟩ issuer.next
      (known ++ [(issuer.issue creator r.request).1]) where
  fresh := h.fresh.append hrow.id.symm
  held := List.rel_append h.held (.cons hrow .nil)
  fits hall := List.forall_mem_append.mpr
    ⟨h.fits hall, List.forall_mem_singleton.mpr (LinkRequest.fits_issue (hfits hall) creator)⟩
  rising := by
    refine List.pairwise_append.mpr ⟨h.rising, List.pairwise_singleton _ _, ?_⟩
    intro a ha b hb
    rw [List.mem_singleton.mp hb, ← hrow.createdAt]
    exact h.past a ha
  past := by
    refine List.forall_mem_append.mpr ⟨h.past, List.forall_mem_singleton.mpr ?_⟩
    exact Int.le_of_eq hrow.createdAt.symm

/-- The same is taken out on both sides. -/
theorem erase [IdSource] (h : Tracks fitting table issuer known) {p : Row → Bool} {q : Reference → Bool}
    (hpq : ∀ row ref, row.Holds ref → p row = q ref) :
    Tracks fitting ⟨table.rows.filter p⟩ issuer (known.filter q) where
  fresh n hn hmem := h.fresh n hn ((List.filter_sublist.map Row.id).subset hmem)
  held := by
    refine List.rel_filter ?_ h.held
    intro row ref hholds
    show p row = true ↔ q ref = true
    rw [hpq row ref hholds]
  fits hall ref href := h.fits hall ref (List.mem_filter.mp href).1
  rising := h.rising.sublist List.filter_sublist
  past row hrow := h.past row (List.mem_filter.mp hrow).1

/-- Many references are written behind the others, if all of them can be stored. -/
theorem insertAll [IdSource] (h : Tracks fitting table issuer known) {name : String}
    (requests : List LinkRequest) (hfits : fitting → ∀ r ∈ requests, r.Fits)
    {later : Issuer} {after : ReferenceTable}
    {refs : List Reference}
    (hall : Store.insertAll (.str name) table issuer (requests.map LinkRequest.request) =
      (later, .ok (after, refs))) : Tracks fitting after later (known ++ refs) := by
  induction requests generalizing table issuer known refs with
  | nil =>
    cases hall
    rw [List.append_nil]
    exact h
  | cons r rest ih =>
    have hrest : fitting → ∀ r ∈ rest, r.Fits := fun hall r hr =>
      hfits hall r (List.mem_cons_of_mem _ hr)
    rw [List.map_cons] at hall
    -- a request that stores nothing only makes time go on; one that does adds a row and an entry
    cases hstored : Store.insert? table r.request (issuer.issue (.str name) r.request).1 with
    | error fault =>
      rw [Store.insertAll_cons_of_error hstored] at hall
      cases hall
    | ok stored =>
      cases stored with
      | none =>
        have hlater : Tracks fitting table issuer.next known :=
          h.later (Nat.le_succ _) (Int.le_refl _)
        rw [Store.insertAll_cons_of_none hstored] at hall
        exact ih hlater hrest hall
      | some next =>
        obtain ⟨row, rfl, hrow⟩ := Store.insert_holds hstored
        rw [Store.insertAll_cons_of_some hstored rfl] at hall
        obtain ⟨rfl, hanswer⟩ := Prod.mk.inj hall
        obtain ⟨⟨after', refs'⟩, hothers, heq⟩ := Checked.map_eq_ok.mp hanswer
        obtain ⟨rfl, rfl⟩ := Prod.mk.inj heq
        have htracks := ih (h.append hrow fun hall => hfits hall r (List.mem_cons_self ..)) hrest
          (Prod.ext rfl hothers)
        rwa [List.append_assoc, List.singleton_append] at htracks

end Tracks

namespace Store

variable {fitting : Prop} {store : Store} {known : List Reference}

/-- The store is open, has a text for its creator, and the journal keeps track of it. -/
structure Follows [IdSource] (fitting : Prop) (store : Store) (known : List Reference) : Prop where
  isOpen : store.isOpen = true
  creator : ∃ name, store.creator = .str name
  tracks : Tracks fitting store.table store.issuer known

namespace Follows

/-- A stored reference that is answered instead of a new one is in the journal. -/
theorem enter_known [IdSource] (h : store.Follows fitting known) {link : LinkKey}
    (hlink : link ∈ store.table.links) (other : Reference) :
    Reference.enter known ((store.getLink link).map fun found => found.getD other) = known := by
  obtain ⟨row, hrow, -, hfound⟩ := ReferenceTable.exists_byLink hlink
  rw [getLink_eq h.isOpen, hfound, Option.mapM_some]
  cases href : row.reference with
  | error fault => rfl
  | ok ref =>
    have hmem : ref.id ∈ known.map Reference.id := by
      rw [h.tracks.ids, Row.reference_id href]
      exact List.mem_map_of_mem hrow
    exact if_pos hmem

/-- Creating a reference enters it into the journal, unless it was there. -/
theorem create [IdSource] (h : store.Follows fitting known) {r : LinkRequest} (hfits : fitting → r.Fits) :
    Follows fitting (store.create r.request).1 (Reference.enter known (store.create r.request).2) := by
  obtain ⟨name, hname⟩ := h.creator
  have hlater : Tracks fitting store.table store.issuer.next known :=
    h.tracks.later (Nat.le_succ _) (Int.le_refl _)
  cases hstored : insert? store.table r.request (store.issuer.issue store.creator r.request).1 with
  | error fault =>
    rw [create_of_error rfl h.isOpen hstored]
    exact ⟨h.isOpen, h.creator, hlater⟩
  | ok stored =>
    cases stored with
    | none =>
      have hlink := mem_links_of_insert h.tracks.fresh hstored
      have hafter : Follows fitting
          { store with issuer := store.issuer.next } known :=
        ⟨h.isOpen, h.creator, hlater⟩
      have hknown := hafter.enter_known hlink (store.issuer.issue store.creator r.request).1
      rw [create_of_none rfl h.isOpen hstored]
      exact hknown.symm ▸ hafter
    | some after =>
      rw [create_of_some rfl h.isOpen hstored]
      rw [hname] at hstored ⊢
      obtain ⟨row, rfl, hrow⟩ := insert_holds hstored
      -- the id was never issued before, so that no entry has it
      have hnew : (store.issuer.issue (.str name) r.request).1.id ∉ known.map Reference.id := by
        rw [h.tracks.ids]
        exact h.tracks.fresh _ (Nat.lt_succ_self _)
      have henter : Reference.enter known (.ok (store.issuer.issue (.str name) r.request).1) =
          known ++ [(store.issuer.issue (.str name) r.request).1] := if_neg hnew
      have htracks := h.tracks.append hrow hfits
      rw [← henter] at htracks
      exact ⟨h.isOpen, ⟨name, rfl⟩, htracks⟩

/-- Creating several enters those that were stored. -/
theorem createAll [IdSource] (h : store.Follows fitting known) {requests : List LinkRequest}
    (hfits : fitting → ∀ r ∈ requests, r.Fits) :
    Follows fitting (store.createAll (requests.map LinkRequest.request)).1
      (Reference.enterAll known (store.createAll (requests.map LinkRequest.request)).2) := by
  obtain ⟨name, hname⟩ := h.creator
  obtain ⟨count, hissued, hlater⟩ := exists_issued_insertAll store.creator store.table store.issuer
    (requests.map LinkRequest.request)
  cases hall : Store.insertAll store.creator store.table store.issuer
      (requests.map LinkRequest.request) with
  | mk later result =>
    rw [hall] at hlater
    cases result with
    | error fault =>
      -- the batch is taken back, but its ids are used up
      rw [createAll_of_error h.isOpen hall, show later = _ from hlater]
      exact ⟨h.isOpen, h.creator, h.tracks.later hissued (Int.le_refl _)⟩
    | ok ended =>
      rw [createAll_of_ok h.isOpen hall]
      rw [hname] at hall
      exact ⟨h.isOpen, h.creator, h.tracks.insertAll requests hfits hall⟩

/-- So does linking what a text mentions. -/
theorem linkFrom [IdSource] (h : store.Follows fitting known) (self : EntityKey) (text : String)
    (createdBy : Option String) : Follows fitting (store.linkFrom self text createdBy).1
      (Reference.enterAll known (store.linkFrom self text createdBy).2) := by
  by_cases hself : LinkRequest.mentions self text createdBy = [] ∨ self.IsProper
  · rw [linkFrom_eq h.isOpen hself]
    refine h.createAll fun _ r hr => ?_
    obtain ⟨key, -, rfl⟩ := List.mem_map.mp hr
    rfl
  · obtain ⟨fault, hfault⟩ := linkFrom_fault store hself
    rw [hfault]
    exact h

/-- What is deleted from the store is deleted from the journal. -/
theorem without [IdSource] {α : Type} [DecidableEq α] (h : store.Follows fitting known)
    (key : Row → α) (a : α)
    {q : Reference → Bool} (hq : ∀ row ref, row.Holds ref → decide (key row ≠ a) = q ref) :
    Follows fitting (store.without key a) (known.filter q) :=
  ⟨h.isOpen, h.creator, h.tracks.erase hq⟩

/-- **One action.** The journal keeps track of the store, unless the clock goes back. -/
theorem apply [IdSource] (h : store.Follows fitting known) {action : Action} (hfits : fitting → action.Fits)
    (hclock : ∀ time, action.time? = some time → store.issuer.time ≤ time) :
    Follows fitting (action.apply store) (action.journal store known) := by
  cases action with
  | create r => exact h.create hfits
  | createAll requests => exact h.createAll hfits
  | linkFrom self text createdBy => exact h.linkFrom self text createdBy
  | delete id =>
    show Follows fitting (store.delete (.str id)).1 (known.filter fun ref => ref.id ≠ id)
    rw [delete_eq h.isOpen]
    refine h.without Row.id id fun row ref hholds => ?_
    rw [hholds.id]
  | deleteLink link =>
    show Follows fitting (store.deleteLink link).1 (known.filter fun ref => !ref.isFor link)
    rw [deleteLink_eq h.isOpen]
    refine h.without Row.link link fun row ref hholds => ?_
    rw [hholds.isFor, decide_not]
  | reopen creator => exact ⟨rfl, ⟨creator, rfl⟩, h.tracks⟩
  | clock time =>
    have hlater : store.issuer.time ≤ (store.issuer.atTime time).time := by
      rw [Issuer.time_atTime]
      exact hclock time rfl
    exact ⟨h.isOpen, h.creator, h.tracks.later (Nat.le_refl _) hlater⟩

end Follows

/-- **A whole run.** The journal keeps track of the store as long as the clock does not go back. -/
theorem Follows.follow [IdSource] (h : store.Follows fitting known) {actions : List Action}
    (hfits : fitting → ∀ action ∈ actions, action.Fits)
    (hclock : (store.issuer.time :: actions.filterMap Action.time?).Pairwise (· ≤ ·)) :
    Follows fitting (store.follow known actions).1 (store.follow known actions).2 := by
  induction actions generalizing store known with
  | nil => exact h
  | cons action rest ih =>
    have hnow := time_apply store action
    have hrest : fitting → ∀ action ∈ rest, action.Fits := fun hall action haction =>
      hfits hall action (List.mem_cons_of_mem _ haction)
    have hstep : (∀ time, action.time? = some time → store.issuer.time ≤ time) ∧
        ((action.apply store).issuer.time :: rest.filterMap Action.time?).Pairwise (· ≤ ·) := by
      -- what an action sets the clock to is the next time of the list, if it sets it at all
      cases htime : action.time? with
      | none =>
        rw [List.filterMap_cons_none htime] at hclock
        rw [hnow, htime]
        refine ⟨fun time hsome => ?_, hclock⟩
        cases hsome
      | some now =>
        rw [List.filterMap_cons_some htime] at hclock
        rw [hnow, htime]
        obtain ⟨hbefore, hafter⟩ := List.pairwise_cons.mp hclock
        refine ⟨fun time hsome => ?_, hafter⟩
        obtain rfl := Option.some.inj hsome
        exact hbefore _ (List.mem_cons_self ..)
    have hnext := h.apply (fun hall => hfits hall action (List.mem_cons_self ..)) hstep.1
    exact ih hnext hrest hstep.2

/-! ## Newest first -/

/-- The journal of a run keeps track of it. -/
theorem run_follows [IdSource] (creator : String) {actions : List Action} (h : NeverBack actions) :
    Follows (∀ action ∈ actions, action.Fits) (run creator actions) (journal creator actions) := by
  have hfresh : Follows (∀ action ∈ actions, action.Fits) (fresh creator) [] :=
    ⟨rfl, ⟨creator, rfl⟩, .empty _ _⟩
  have hfollow := hfresh.follow (fun hall => hall) h
  rwa [follow_store] at hfollow

/-- **Newest first is the journal read backwards.** After any actions during which the clock never
goes back, the rows in the order of a query hold the references of the journal in the reverse order;
a query without a filter answers any page of them, where only metadata that fits is given. -/
theorem run_newestFirst [IdSource] (creator : String) {actions : List Action} (h : NeverBack actions) :
    List.Forall₂ Row.Holds (run creator actions).table.newest (journal creator actions).reverse ∧
      ((∀ action ∈ actions, action.Fits) → ∀ limit offset : Nat, 1 ≤ limit → limit ≤ 500 →
        fitsWord offset = true →
        (run creator actions).query TextFilter.unfiltered.request (.int limit) (.int offset) =
          .ok (((journal creator actions).reverse.drop offset).take limit)) := by
  have hfollows := run_follows creator h
  have htracks := hfollows.tracks
  have hheld : List.Forall₂ Row.Holds (run creator actions).table.newest
      (journal creator actions).reverse := by
    rw [newest_eq_reverse (run_inOrder creator actions) htracks.rising]
    exact List.rel_reverse htracks.held
  refine ⟨hheld, ?_⟩
  intro hfits limit offset hpos hmost hoffset
  obtain ⟨clause, filter, hclause, hbind, haccepts⟩ := TextFilter.unfiltered.exists_bind
  have hall : (run creator actions).table.matching filter = (run creator actions).table.newest :=
    List.filter_eq_self.mpr fun row _ => (haccepts row).mpr (TextFilter.unfiltered_meets row)
  have hread : List.Forall₂ (fun row ref => row.reference = .ok ref)
      (run creator actions).table.newest (journal creator actions).reverse := by
    have hboth := (List.forall₂_and_left _ _).mpr
      ⟨fun ref href => htracks.fits hfits ref (List.mem_reverse.mp href), hheld.flip⟩
    exact hboth.flip.imp fun row ref hrow => hrow.2.reference hrow.1
  refine (query_eq_ok hfollows.isOpen hclause hbind hpos hmost).mpr ⟨hoffset, ?_⟩
  rw [hall, Checked.mapM_eq_ok]
  exact List.forall₂_take limit (List.forall₂_drop offset hread)

/-- The newest of three references of one time is deleted, and the next one gets its number. Then
time passes, and a link that is there is asked for among others. -/
def turnover : List Action :=
  [.create ⟨⟨⟨"task", "T-1"⟩, ⟨"rule", "R-1"⟩, "governed_by"⟩, .null, none⟩,
    .create ⟨⟨⟨"task", "T-1"⟩, ⟨"task", "T-2"⟩, "blocks"⟩, .obj [("n", .int 1)], none⟩,
    .create ⟨⟨⟨"task", "T-2"⟩, ⟨"task", "T-3"⟩, "blocks"⟩, .null, none⟩,
    .delete "ref-0000000000000003",
    .create ⟨⟨⟨"task", "T-3"⟩, ⟨"task", "T-1"⟩, "blocks"⟩, .null, none⟩, .clock 2000000, .reopen "ci",
    .createAll [⟨⟨⟨"task", "T-1"⟩, ⟨"task", "T-2"⟩, "blocks"⟩, .null, none⟩,
      ⟨⟨⟨"note", "N-1"⟩, ⟨"task", "T-1"⟩, "about"⟩, .null, none⟩],
    .deleteLink ⟨⟨"task", "T-1"⟩, ⟨"rule", "R-1"⟩, "governed_by"⟩,
    .create ⟨⟨⟨"task", "T-2"⟩, ⟨"rule", "R-1"⟩, "governed_by"⟩, .arr [.str "x"], some "me"⟩]

theorem run_newestFirst_turnover :
    NeverBack turnover ∧ (∀ action ∈ turnover, action.Fits) ∧
      (run "system" turnover).table.rows.map Row.number = [2, 3, 4, 5] ∧
      (journal "system" turnover).map Reference.id = ["ref-0000000000000002",
        "ref-0000000000000004", "ref-0000000000000006", "ref-0000000000000007"] ∧
      List.Forall₂ Row.Holds (run "system" turnover).table.newest
        (journal "system" turnover).reverse ∧
      (run "system" turnover).query TextFilter.unfiltered.request (.int 3) (.int 1) =
        .ok ((journal "system" turnover).reverse.drop 1) := by
  have hclock : NeverBack turnover := by decide
  have hfits : ∀ action ∈ turnover, action.Fits := by decide
  obtain ⟨hheld, hquery⟩ := run_newestFirst "system" hclock
  refine ⟨hclock, hfits, by decide, by decide, hheld, ?_⟩
  exact hquery hfits 3 1 (by decide) (by decide) (by decide)

end Store

end ChangeImpact
