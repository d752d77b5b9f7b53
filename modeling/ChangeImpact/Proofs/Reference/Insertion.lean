import ChangeImpact.Proofs.Reference.Requests
import ChangeImpact.Proofs.Reference.Transactions

/-!
# What a table takes in

A table that was filled by requests keeps four things (`Keeps`): no two rows have one id, no two
rows have one link, every id is one that was issued, and every row can be read.

> `insert_known`: a reference for a link that is there leaves the table as it is;
> `insert_fresh`, `insert_absent`: one for any other link adds one row that records it;
> `insertAll_adds`: of many requests, the first one for each link that is not there adds a row.

An id is never in the way of a link that is absent, because the ids in a table were all issued
before. That no id in the table is still to be issued is all that a single row needs
(`Issuer.FreshFor`), so that a table may also hold rows that came from elsewhere.
-/

namespace ChangeImpact

namespace ReferenceTable

/-- The ids of the rows. -/
def ids (table : ReferenceTable) : List String := table.rows.map Row.id

/-- The links of the rows. -/
def links (table : ReferenceTable) : List LinkKey := table.rows.map Row.link

end ReferenceTable

namespace Issuer

variable {issuer : Issuer} {table : ReferenceTable}

/-- No row of the table has an id that is still to be issued. -/
def FreshFor [IdSource] (issuer : Issuer) (table : ReferenceTable) : Prop :=
  ∀ n, issuer.issued < n → idOf n ∉ table.ids

/-- The next id is not in the table. -/
theorem FreshFor.next_not_mem [IdSource] (h : issuer.FreshFor table) :
    idOf (issuer.issued + 1) ∉ table.ids :=
  h _ (Nat.lt_succ_self _)

/-- An id that is used up is not missed. -/
theorem FreshFor.next [IdSource] (h : issuer.FreshFor table) : FreshFor issuer.next table :=
  fun n hn => h n (Nat.lt_of_succ_lt hn)

/-- Nor is one that a row got. -/
theorem FreshFor.append [IdSource] (h : issuer.FreshFor table) {row : Row}
    (hid : row.id = idOf (issuer.issued + 1)) :
    FreshFor issuer.next ⟨table.rows ++ [row]⟩ := by
  intro n hn hmem
  obtain ⟨other, hother, hsame⟩ := List.mem_map.mp hmem
  rcases List.mem_append.mp hother with hother | hother
  · exact h.next n hn (List.mem_map.mpr ⟨other, hother, hsame⟩)
  · rw [List.mem_singleton.mp hother, hid] at hsame
    have hnumber := idOf_injective hsame
    have hissued : issuer.issued + 1 < n := hn
    omega

/-- Rows whose ids were made otherwise are in no one's way. -/
theorem freshFor_of_foreign [IdSource] (h : ∀ row ∈ table.rows, ¬ "ref-".toList <+: row.id.toList) :
    issuer.FreshFor table := by
  intro n _ hmem
  obtain ⟨row, hrow, hid⟩ := List.mem_map.mp hmem
  have hchars : (idOf n).toList = "ref-".toList ++ IdSource.part n := String.toList_ofList
  refine h row hrow ?_
  rw [hid, hchars]
  exact List.prefix_append _ _

end Issuer

namespace ReferenceTable

/-- What a table keeps, whose rows got their ids from the issuer. -/
structure Keeps [IdSource] (table : ReferenceTable) (issuer : Issuer) : Prop where
  ids : table.ids.Nodup
  links : table.links.Nodup
  issued : ∀ row ∈ table.rows, ∃ n ≤ issuer.issued, row.id = Issuer.idOf n
  readable : ∀ row ∈ table.rows, ∃ ref, row.reference = .ok ref

/-- The requests for links that the table does not have, of several for one link the first. -/
def absent (table : ReferenceTable) (requests : List LinkRequest) : List LinkRequest :=
  (requests.filter fun r => r.link ∉ table.links).eraseDupsBy fun a b => a.link = b.link

variable {table : ReferenceTable} {issuer : Issuer} {r : LinkRequest} {rest : List LinkRequest}

theorem keeps_empty [IdSource] (issuer : Issuer) : Keeps .empty issuer :=
  ⟨.nil, .nil, List.forall_mem_nil _, List.forall_mem_nil _⟩

/-- Ids that are issued later do not matter. -/
theorem Keeps.later [IdSource] (h : Keeps table issuer) (later : Issuer)
    (hle : issuer.issued ≤ later.issued) : Keeps table later := by
  refine ⟨h.ids, h.links, ?_, h.readable⟩
  intro row hrow
  obtain ⟨n, hn, hid⟩ := h.issued row hrow
  exact ⟨n, hn.trans hle, hid⟩

/-- Taking rows out does not matter. -/
theorem Keeps.erase [IdSource] (h : Keeps table issuer) (p : Row → Bool) : Keeps (table.erase p) issuer := by
  have hrows : (table.erase p).rows.Sublist table.rows := List.filter_sublist
  exact ⟨h.ids.sublist (hrows.map _), h.links.sublist (hrows.map _),
    fun row hrow => h.issued row (hrows.subset hrow),
    fun row hrow => h.readable row (hrows.subset hrow)⟩

/-- No id in the table is still to be issued. -/
theorem Keeps.freshFor [IdSource] (h : Keeps table issuer) : issuer.FreshFor table := by
  intro n hn hmem
  obtain ⟨row, hrow, hid⟩ := List.mem_map.mp hmem
  obtain ⟨m, hm, hid'⟩ := h.issued row hrow
  have := Issuer.idOf_injective (hid'.symm.trans hid)
  omega

/-- A further row with the next id and a link that is not there. -/
theorem Keeps.append [IdSource] (h : Keeps table issuer) {row : Row}
    (hid : row.id = Issuer.idOf (issuer.issued + 1)) (hlink : row.link ∉ table.links)
    (hread : ∃ ref, row.reference = .ok ref) :
    Keeps ⟨table.rows ++ [row]⟩ issuer.next := by
  have hfresh : row.id ∉ table.ids := hid ▸ h.freshFor.next_not_mem
  refine ⟨?_, ?_, ?_, ?_⟩
  · show ((table.rows ++ [row]).map Row.id).Nodup
    rw [List.map_append]
    exact h.ids.append (List.nodup_singleton _) (List.disjoint_singleton.mpr hfresh)
  · show ((table.rows ++ [row]).map Row.link).Nodup
    rw [List.map_append]
    exact h.links.append (List.nodup_singleton _) (List.disjoint_singleton.mpr hlink)
  · intro other hother
    rcases List.mem_append.mp hother with hother | hother
    · obtain ⟨n, hn, hn'⟩ := h.issued other hother
      exact ⟨n, Nat.le_succ_of_le hn, hn'⟩
    · exact ⟨_, Nat.le_refl _, List.mem_singleton.mp hother ▸ hid⟩
  · intro other hother
    rcases List.mem_append.mp hother with hother | hother
    · exact h.readable other hother
    · exact List.mem_singleton.mp hother ▸ hread

/-! ## One row -/

/-- A link that is there is found. -/
theorem exists_byLink {link : LinkKey} (h : link ∈ table.links) :
    ∃ row ∈ table.rows, row.link = link ∧ table.byLink? link = some row := by
  unfold byLink?
  cases hfound : table.rows.find? fun row => row.link = link with
  | none =>
    obtain ⟨row, hrow, hsame⟩ := List.mem_map.mp h
    exact absurd (decide_eq_true hsame) (List.find?_eq_none.mp hfound row hrow)
  | some row =>
    have hsame := List.find?_some hfound
    exact ⟨row, List.mem_of_find?_eq_some hfound, of_decide_eq_true hsame, rfl⟩

theorem insert_eq_none {row : Row} (h : row.link ∈ table.links) : table.insert? row = none := by
  obtain ⟨other, hother, hlink⟩ := List.mem_map.mp h
  unfold insert?
  rw [if_pos (List.any_eq_true.mpr ⟨other, hother, by simp [hlink]⟩)]

theorem insert_eq_some {row : Row} (hid : row.id ∉ table.ids) (hlink : row.link ∉ table.links) :
    table.insert? row = some ⟨table.rows ++ [row]⟩ := by
  unfold insert?
  rw [if_neg]
  intro hany
  obtain ⟨other, hother, hsame⟩ := List.any_eq_true.mp hany
  rcases Bool.or_eq_true_iff.mp hsame with hsame | hsame
  · exact hid (List.mem_map.mpr ⟨other, hother, of_decide_eq_true hsame⟩)
  · exact hlink (List.mem_map.mpr ⟨other, hother, of_decide_eq_true hsame⟩)

/-! ## Requests -/

theorem absent_cons_of_mem (h : r.link ∈ table.links) :
    table.absent (r :: rest) = table.absent rest := by
  unfold absent
  rw [List.filter_cons_of_neg (by simpa using h)]

/-- Once the first request has its row, its link is not absent any more. -/
theorem absent_cons_of_not_mem (h : r.link ∉ table.links) {row : Row} (hrow : row.link = r.link) :
    table.absent (r :: rest) = r :: absent ⟨table.rows ++ [row]⟩ rest := by
  have hlinks : links ⟨table.rows ++ [row]⟩ = table.links ++ [r.link] := by
    unfold links
    rw [List.map_append, List.map_singleton, hrow]
  unfold absent
  rw [List.filter_cons_of_pos (by simpa using h), List.eraseDupsBy_cons, List.filter_filter]
  congr 2
  refine List.filter_congr fun other _ => ?_
  rw [Bool.eq_iff_iff, hlinks, Bool.and_eq_true, decide_eq_true_iff, decide_eq_false_iff_not,
    decide_eq_true_iff, decide_eq_true_iff, List.mem_append, List.mem_singleton, not_or]
  exact and_comm

/-- The reference is the one that is issued for the request at a time, whatever its id. -/
def Answers [IdSource] (name : String) (time : Int) (r : LinkRequest) (ref : Reference) : Prop :=
  ∃ issuer : Issuer, issuer.time = time ∧ ref = (issuer.issue (.str name) r.request).1

/-- The rows are those that a table gets for some requests, and the references are the answers. -/
structure Adds [IdSource] (table : ReferenceTable) (name : String) (time : Int)
    (requests : List LinkRequest) (added : List Row) (refs : List Reference) : Prop where
  links : added.map Row.link = (table.absent requests).map LinkRequest.link
  answered : List.Forall₂ (Answers name time) (table.absent requests) refs
  recorded : List.Forall₂ Row.Records added refs

end ReferenceTable

open ReferenceTable

namespace Store

variable {table : ReferenceTable} {issuer : Issuer} {name : String} {r : LinkRequest}

/-- A reference for a link that is there does not get into the table, whatever the next id is. -/
theorem insert_known [IdSource] {creator : Name} (h : r.Storable creator issuer.time)
    (hlink : r.link ∈ table.links) :
    insert? table r.request (issuer.issue creator r.request).1 = .ok none := by
  obtain ⟨row, hwritten, -, hrow⟩ := h.exists_row table.nextNumber
  exact insert_eq_ok.mpr ⟨rfl, some row, hwritten, insert_eq_none (hrow ▸ hlink)⟩

/-- A reference that gets into a table has its row behind all others. -/
theorem exists_row_of_insert {request : NewReference} {ref : Reference} {after : ReferenceTable}
    (h : insert? table request ref = .ok (some after)) :
    ∃ row, Row.ofReference ref table.nextNumber = .ok (some row) ∧ after = ⟨table.rows ++ [row]⟩ := by
  obtain ⟨-, row?, hrow, hafter⟩ := insert_eq_ok.mp h
  obtain ⟨row, rfl, hinsert⟩ := Option.bind_eq_some_iff.mp hafter
  refine ⟨row, hrow, ?_⟩
  unfold ReferenceTable.insert? at hinsert
  split at hinsert
  next => cases hinsert
  next => exact (Option.some.inj hinsert).symm

/-- A reference for a link that is not there gets a row of its own, if its id is not taken. -/
theorem insert_fresh [IdSource] (hfresh : issuer.FreshFor table) (hfits : r.Fits)
    (htime : fitsWord issuer.time = true) (hlink : r.link ∉ table.links) :
    ∃ row, insert? table r.request (issuer.issue (.str name) r.request).1 =
        .ok (some ⟨table.rows ++ [row]⟩) ∧
      Row.Records row (issuer.issue (.str name) r.request).1 ∧
      row.id = Issuer.idOf (issuer.issued + 1) ∧ row.link = r.link := by
  obtain ⟨row, hrecords, hnumber, hid, hrow⟩ :=
    @LinkRequest.exists_records issuer name _ r hfits htime table.nextNumber
  have hwritten := hrecords.written
  rw [hnumber] at hwritten
  exact ⟨row, insert_eq_ok.mpr ⟨rfl, some row, hwritten,
    insert_eq_some (hid ▸ hfresh.next_not_mem) (hrow ▸ hlink)⟩, hrecords, hid, hrow⟩

theorem insert_absent [IdSource] (hkeeps : Keeps table issuer) (hfits : r.Fits)
    (htime : fitsWord issuer.time = true) (hlink : r.link ∉ table.links) :
    ∃ row, insert? table r.request (issuer.issue (.str name) r.request).1 =
        .ok (some ⟨table.rows ++ [row]⟩) ∧
      Row.Records row (issuer.issue (.str name) r.request).1 ∧ row.link = r.link ∧
      Keeps ⟨table.rows ++ [row]⟩ issuer.next := by
  obtain ⟨row, hinsert, hrecords, hid, hrow⟩ :=
    @insert_fresh table issuer name r _ hkeeps.freshFor hfits htime hlink
  exact ⟨row, hinsert, hrecords, hrow, hkeeps.append hid (hrow ▸ hlink) ⟨_, hrecords.read⟩⟩

/-- **Many requests.** The first request for each link that is not there gets a row, and the
references of these requests are the answer. -/
theorem insertAll_adds [IdSource] (requests : List LinkRequest) (hfits : ∀ r ∈ requests, r.Fits)
    (hkeeps : Keeps table issuer) (htime : fitsWord issuer.time = true) :
    ∃ later added refs, insertAll (.str name) table issuer (requests.map LinkRequest.request) =
        (later, .ok (⟨table.rows ++ added⟩, refs)) ∧
      later.time = issuer.time ∧ Keeps ⟨table.rows ++ added⟩ later ∧
      Adds table name issuer.time requests added refs := by
  induction requests generalizing table issuer with
  | nil =>
    refine ⟨issuer, [], [], ?_, rfl, ?_, rfl, .nil, .nil⟩
    · rw [List.append_nil]
      rfl
    · rw [List.append_nil]
      exact hkeeps
  | cons r rest ih =>
    obtain ⟨hfit, hrest⟩ := List.forall_mem_cons.mp hfits
    -- an id is used up either way, a row is added only for a new link
    by_cases hlink : r.link ∈ table.links
    · have hkeeps₁ := hkeeps.later issuer.next (Nat.le_succ _)
      obtain ⟨later, added, refs, heq, htime', hkeeps', hadds⟩ := ih hrest hkeeps₁ htime
      refine ⟨later, added, refs, ?_, htime', hkeeps', ?_⟩
      · have hnone := insert_known (r.storable_of_fitsWord name htime) hlink
        rw [List.map_cons, insertAll_cons_of_none hnone]
        exact heq
      · have habsent : table.absent (r :: rest) = table.absent rest := absent_cons_of_mem hlink
        refine ⟨?_, ?_, hadds.recorded⟩
        · rw [habsent, hadds.links]
        · rw [habsent]
          exact hadds.answered
    · obtain ⟨row, hinsert, hrecords, hrow, hkeeps₁⟩ :=
        @insert_absent table issuer name r _ hkeeps hfit htime hlink
      obtain ⟨later, added, refs, heq, htime', hkeeps', hadds⟩ := ih hrest hkeeps₁ htime
      rw [List.append_assoc, List.singleton_append] at heq hkeeps'
      refine ⟨later, row :: added, (issuer.issue (.str name) r.request).1 :: refs, ?_, htime',
        hkeeps', ?_⟩
      · rw [List.map_cons, insertAll_cons_of_some hinsert heq]
        rfl
      · have habsent : table.absent (r :: rest) = r :: absent ⟨table.rows ++ [row]⟩ rest :=
          absent_cons_of_not_mem hlink hrow
        refine ⟨?_, ?_, .cons hrecords hadds.recorded⟩
        · rw [habsent, List.map_cons, List.map_cons, hrow, hadds.links]
        · rw [habsent]
          exact .cons ⟨issuer, rfl, rfl⟩ hadds.answered

end Store

end ChangeImpact
