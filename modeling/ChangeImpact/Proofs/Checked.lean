import Mathlib.Data.List.Forall2
import ChangeImpact.Fault

/-!
# Taking checked computations apart

A `Checked` computation ends in a value only if every step of it does. These lemmas turn "this
computation gave that value" into what its steps gave, so that no proof has to unfold the monad.
-/

namespace ChangeImpact.Checked

variable {α β : Type}

theorem bind_eq_ok {x : Checked α} {f : α → Checked β} {b : β} :
    (x >>= f) = .ok b ↔ ∃ a, x = .ok a ∧ f a = .ok b := by
  cases x <;> simp [bind, Except.bind]

@[simp] theorem pure_eq_ok {a b : α} : (pure a : Checked α) = .ok b ↔ a = b := by
  simp [pure, Except.pure]

theorem map_eq_ok {x : Checked α} {f : α → β} {b : β} :
    x.map f = .ok b ↔ ∃ a, x = .ok a ∧ f a = b := by
  cases x <;> simp [Except.map]

theorem toOption_eq_some {x : Checked α} {a : α} : x.toOption = some a ↔ x = .ok a := by
  cases x <;> simp [Except.toOption]

@[simp] theorem ok_bind (a : α) (f : α → Checked β) : (Except.ok a >>= f : Checked β) = f a := rfl

@[simp] theorem guardThat_eq_ok {condition : Bool} {fault : Fault} :
    guardThat condition fault = .ok () ↔ condition = true := by
  cases condition <;> simp [guardThat]

/-- Computations over a list give what each of them gives. -/
theorem mapM_eq_ok {f : α → Checked β} {as : List α} {bs : List β} :
    as.mapM f = .ok bs ↔ List.Forall₂ (fun a b => f a = .ok b) as bs := by
  induction as generalizing bs with
  | nil => simp [pure, Except.pure, eq_comm]
  | cons a as ih =>
    rw [List.mapM_cons, bind_eq_ok]
    constructor
    · intro hgiven
      obtain ⟨b, hb, h⟩ := hgiven
      obtain ⟨rest, hrest, h⟩ := bind_eq_ok.mp h
      rw [pure_eq_ok] at h
      subst h
      exact .cons hb (ih.mp hrest)
    · intro hgiven
      rcases hgiven with _ | ⟨hb, hrest⟩
      exact ⟨_, hb, bind_eq_ok.mpr ⟨_, ih.mpr hrest, rfl⟩⟩

/-- What computations over a list give is what each of them gives. -/
theorem mem_mapM {f : α → Checked β} {as : List α} {bs : List β} (h : as.mapM f = .ok bs) {b : β} :
    b ∈ bs ↔ ∃ a ∈ as, f a = .ok b := by
  have hall := mapM_eq_ok.mp h
  clear h
  induction hall with
  | nil => simp
  | @cons a first as rest hfirst _ ih =>
    constructor
    · intro hb
      rcases List.mem_cons.mp hb with rfl | hb
      · exact ⟨a, List.mem_cons_self .., hfirst⟩
      · obtain ⟨a, ha, hf⟩ := ih.mp hb
        exact ⟨a, List.mem_cons_of_mem _ ha, hf⟩
    · intro hgiven
      obtain ⟨a, ha, hf⟩ := hgiven
      rcases List.mem_cons.mp ha with rfl | ha
      · rw [hfirst, Except.ok.injEq] at hf
        exact hf ▸ List.mem_cons_self ..
      · exact List.mem_cons_of_mem _ (ih.mpr ⟨a, ha, hf⟩)

/-- They give it in the same place. -/
theorem getElem?_mapM {f : α → Checked β} {as : List α} {bs : List β} (h : as.mapM f = .ok bs)
    {n : Nat} {a : α} (ha : as[n]? = some a) : ∃ b, bs[n]? = some b ∧ f a = .ok b := by
  obtain ⟨hn, rfl⟩ := List.getElem?_eq_some_iff.mp ha
  have hall := mapM_eq_ok.mp h
  have hn' : n < bs.length := hall.length_eq ▸ hn
  exact ⟨bs[n], List.getElem?_eq_getElem hn', hall.get hn hn'⟩

/-- Computations over a list give values together exactly if each of them gives one. -/
theorem exists_mapM_eq_ok {f : α → Checked β} {as : List α} :
    (∃ bs, as.mapM f = .ok bs) ↔ ∀ a ∈ as, ∃ b, f a = .ok b := by
  constructor
  · intro hgiven
    obtain ⟨bs, h⟩ := hgiven
    have hall := mapM_eq_ok.mp h
    clear h
    induction hall with
    | nil => simp
    | cons hfirst _ ih => exact List.forall_mem_cons.mpr ⟨⟨_, hfirst⟩, ih⟩
  · intro h
    induction as with
    | nil => exact ⟨[], rfl⟩
    | cons a as ih =>
      obtain ⟨⟨b, hb⟩, hrest⟩ := List.forall_mem_cons.mp h
      obtain ⟨bs, hbs⟩ := ih hrest
      exact ⟨b :: bs, mapM_eq_ok.mpr (.cons hb (mapM_eq_ok.mp hbs))⟩

/-- Computations over a list that all need the same thing. -/
theorem mapM_eq_ok_of_forall {f : α → Checked β} {g : α → β} {p : Prop} {as : List α} {bs : List β}
    (h : ∀ a ∈ as, ∀ b, f a = .ok b ↔ p ∧ b = g a) :
    as.mapM f = .ok bs ↔ (as = [] ∨ p) ∧ bs = as.map g := by
  induction as generalizing bs with
  | nil => simp [pure, Except.pure, eq_comm]
  | cons a as ih =>
    obtain ⟨ha, has⟩ := List.forall_mem_cons.mp h
    rw [List.mapM_cons, bind_eq_ok, List.map_cons]
    constructor
    · intro hgiven
      obtain ⟨b, hb, htail⟩ := hgiven
      obtain ⟨hp, rfl⟩ := (ha b).mp hb
      obtain ⟨rest, hrest, hcons⟩ := bind_eq_ok.mp htail
      rw [pure_eq_ok, ((ih has).mp hrest).2] at hcons
      exact ⟨Or.inr hp, hcons.symm⟩
    · intro hgiven
      rcases hgiven with ⟨hnil | hp, rfl⟩
      · cases hnil
      · exact ⟨g a, (ha _).mpr ⟨hp, rfl⟩, bind_eq_ok.mpr ⟨_, (ih has).mpr ⟨Or.inr hp, rfl⟩, rfl⟩⟩

/-- What every round of a computation over a list keeps holds at its end. -/
theorem foldlM_keeps {p : β → Prop} {f : β → α → Checked β} {as : List α}
    (hstep : ∀ a ∈ as, ∀ b next, p b → f b a = .ok next → p next) {b last : β} (hb : p b)
    (h : as.foldlM f b = .ok last) : p last := by
  induction as generalizing b with
  | nil =>
    rw [List.foldlM_nil, pure_eq_ok] at h
    exact h ▸ hb
  | cons a as ih =>
    obtain ⟨ha, has⟩ := List.forall_mem_cons.mp hstep
    rw [List.foldlM_cons] at h
    obtain ⟨next, hnext, hrest⟩ := bind_eq_ok.mp h
    exact ih has (ha b next hb hnext) hrest

/-- A loop goes through to its end if no round faults. -/
theorem forIn_eq_ok {f : α → PUnit → Checked (ForInStep PUnit)} {as : List α}
    (h : ∀ a ∈ as, f a ⟨⟩ = .ok (.yield ⟨⟩)) : forIn as PUnit.unit f = .ok ⟨⟩ := by
  induction as with
  | nil => rfl
  | cons a as ih =>
    obtain ⟨ha, has⟩ := List.forall_mem_cons.mp h
    rw [List.forIn_cons, ha]
    exact ih has

end ChangeImpact.Checked
