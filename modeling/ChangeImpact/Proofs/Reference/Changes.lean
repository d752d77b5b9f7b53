import Mathlib.Logic.Relation
import ChangeImpact.Proofs.Reference.Batches
import ChangeImpact.Proofs.Reference.Runs

/-!
# What actions are made of

Whatever is asked of a store, faults included, only four things happen to it (`Change`): an id is
used up, a row is added with the next number and the next id, rows are taken out, or the store is
opened again with a creator.

> `apply_changes`: an action sets the clock, or it is a sequence of changes;
> `foldl_induction`: what no change and no time harms holds after any actions.

So whatever is to be shown of the rows of all runs is shown of the changes.
-/

namespace ChangeImpact

/-- The time that an action sets, if it is about time. -/
def Action.time? : Action → Option Int
  | .clock time => some time
  | _ => none

open ReferenceTable Relation

namespace Store

/-- The store with another id used up. -/
def used (store : Store) : Store :=
  { store with issuer := store.issuer.next }

/-- The store at another time. -/
def atTime (store : Store) (time : Int) : Store :=
  { store with issuer := store.issuer.atTime time }

/-- One of the things that happen to a store. -/
inductive Change [IdSource] : Store → Store → Prop
  | use (store : Store) : Change store store.used
  | add (store : Store) {row : Row} (hnumber : row.number = store.table.nextNumber)
    (hid : row.id = Issuer.idOf (store.issuer.issued + 1)) :
    Change store { store.used with table := ⟨store.table.rows ++ [row]⟩ }
  | erase (store : Store) (p : Row → Bool) : Change store { store with table := store.table.erase p }
  | reopen (store : Store) (creator : Name) : Change store (store.close.reopen creator)

/-- Any number of changes, one after the other. -/
def Changes [IdSource] : Store → Store → Prop := ReflTransGen Change

/-- What no change harms is kept by any number of them. -/
theorem Changes.keep [IdSource] {P : Store → Prop} (hchange : ∀ {a b}, Change a b → P a → P b) {a b : Store}
    (h : Changes a b) (ha : P a) : P b := by
  induction h with
  | refl => exact ha
  | tail _ hbc hb => exact hchange hbc hb

/-! ## Operations -/

/-- What gets into a table is a row with the next number and the next id. -/
theorem change_of_insert [IdSource] {store : Store} {request : NewReference} {after : ReferenceTable}
    (h : insert? store.table request (store.issuer.issue store.creator request).1 = .ok (some after)) :
    Change store { store.used with table := after } := by
  obtain ⟨row, hwritten, rfl⟩ := exists_row_of_insert h
  obtain ⟨-, _, _, -, hsome⟩ := Row.ofReference_eq_ok hwritten
  obtain ⟨_, -, rfl⟩ := Option.map_eq_some_iff.mp hsome.symm
  exact .add store rfl rfl

/-- Creating a reference is one change, whatever comes of it. -/
theorem create_change [IdSource] (store : Store) (request : NewReference) :
    Change store (store.create request).1 := by
  rcases create_cases store rfl with ⟨fault, hcreate⟩ | ⟨-, -, hcreate⟩ | ⟨table, hstored, hcreate⟩
  · rw [hcreate]
    exact .use store
  · rw [hcreate]
    exact .use store
  · rw [hcreate]
    exact change_of_insert hstored

/-- Ids may be used up for nothing. -/
theorem changes_of_issued [IdSource] {store : Store} {count : Nat} (hissued : store.issuer.issued ≤ count) :
    Changes store { store with issuer := { store.issuer with issued := count } } := by
  induction hissued with
  | refl => exact .refl
  | step _ ih => exact .tail ih (.use _)

/-- Inserting all of some requests is one change after the other. -/
theorem insertAll_changes [IdSource] {store : Store} {requests : List NewReference} {later : Issuer}
    {after : ReferenceTable} {refs : List Reference}
    (h : insertAll store.creator store.table store.issuer requests = (later, .ok (after, refs))) :
    Changes store { store with issuer := later, table := after } := by
  induction requests generalizing store refs with
  | nil =>
    cases h
    exact .refl
  | cons request rest ih =>
    cases hstored : insert? store.table request (store.issuer.issue store.creator request).1 with
    | error fault =>
      rw [insertAll_cons_of_error hstored] at h
      cases h
    | ok stored =>
      cases stored with
      | none =>
        rw [insertAll_cons_of_none hstored] at h
        exact .head (.use store) (@ih store.used _ h)
      | some found =>
        rw [insertAll_cons_of_some hstored rfl] at h
        obtain ⟨rfl, hanswer⟩ := Prod.mk.inj h
        obtain ⟨⟨after', refs'⟩, hothers, heq⟩ := Checked.map_eq_ok.mp hanswer
        obtain ⟨rfl, rfl⟩ := Prod.mk.inj heq
        exact .head (change_of_insert hstored)
          (@ih { store.used with table := found } _ (Prod.ext rfl hothers))

/-- Creating many at once is such changes, or uses up ids. -/
theorem createAll_changes [IdSource] (store : Store) (requests : List NewReference) :
    Changes store (store.createAll requests).1 := by
  rcases createAll_cases store requests with
    hend | ⟨later, fault, hall, hend⟩ | ⟨-, later, table, refs, hall, hend⟩
  · rw [hend]
    exact .refl
  · obtain ⟨count, hissued, hlater⟩ :=
      exists_issued_insertAll store.creator store.table store.issuer requests
    rw [hall] at hlater
    rw [hend, show later = _ from hlater]
    exact changes_of_issued hissued
  · rw [hend]
    exact insertAll_changes hall

/-- Deleting is a change, or none. -/
theorem eraseWhere_changes [IdSource] (store : Store) (condition : Checked (Row → Bool)) :
    Changes store (store.eraseWhere condition).1 := by
  rcases eraseWhere_cases store condition with ⟨fault, herase⟩ | ⟨p, herase⟩
  · rw [herase]
    exact .refl
  · rw [herase]
    exact .single (.erase store p)

/-! ## Actions and runs -/

/-- **One action.** It sets the clock, or it is a sequence of changes. -/
theorem apply_changes [IdSource] (store : Store) (action : Action) :
    Changes (action.time?.elim store store.atTime) (action.apply store) := by
  cases action with
  | create r => exact .single (create_change store r.request)
  | createAll requests => exact createAll_changes store _
  | linkFrom self text createdBy =>
    show Changes store (store.linkFrom self text createdBy).1
    unfold linkFrom linkMentions
    split
    next => exact .refl
    next => exact .refl
    next => exact createAll_changes store _
  | delete id => exact eraseWhere_changes store _
  | deleteLink link => exact eraseWhere_changes store _
  | reopen creator => exact .single (.reopen store (.str creator))
  | clock time => exact .refl

/-- Only an action that is about time sets the clock. -/
theorem time_apply [IdSource] (store : Store) (action : Action) :
    (action.apply store).issuer.time = action.time?.getD store.issuer.time := by
  refine (apply_changes store action).keep
    (P := fun after => after.issuer.time = action.time?.getD store.issuer.time) ?_ ?_
  · intro a b hchange ha
    cases hchange with
    | use => exact ha
    | add => exact ha
    | erase => exact ha
    | reopen => exact ha
  · cases action.time? with
    | none => rfl
    | some time => exact store.issuer.time_atTime time

/-- What no change and no time harms holds after any actions. -/
theorem foldl_induction [IdSource] {P : Store → Prop} (hchange : ∀ {a b}, Change a b → P a → P b)
    (htime : ∀ {a} time, P a → P (a.atTime time)) {store : Store} (h : P store)
    (actions : List Action) : P (actions.foldl Action.apply store) := by
  induction actions generalizing store with
  | nil => exact h
  | cons action rest ih =>
    refine ih ((apply_changes store action).keep hchange ?_)
    cases action.time? with
    | none => exact h
    | some time => exact htime time h

end Store

end ChangeImpact
