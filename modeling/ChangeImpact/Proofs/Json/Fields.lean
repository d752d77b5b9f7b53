import Mathlib.Data.List.Nodup
import ChangeImpact.Record

/-!
# Objects field by field

A field that is set takes the place of the one with its name, or comes after all others, so that no
name comes twice (`nodup_setField`).

An object may be changed field by field, and a list item by item, whatever the items are. What is
then listed under a name is what was listed before, with the change made to it.
-/

namespace ChangeImpact.Json

/-! ## Fields by name -/

section Named

variable {α : Type} {key : String} {value : α} {fields : List (String × α)} {field : String × α}

theorem lookup_cons (other key : String) (value : α) (fields : List (String × α)) :
    lookup key ((other, value) :: fields) = if other = key then some value else lookup key fields := by
  conv_lhs => unfold lookup
  simp only [beq_iff_eq]

/-- What is found under a key is a field with it. -/
theorem mem_of_lookup (h : lookup key fields = some value) : (key, value) ∈ fields := by
  induction fields with
  | nil => cases h
  | cons field rest ih =>
    obtain ⟨k, v⟩ := field
    unfold lookup at h
    split at h
    next heq =>
      cases h
      rw [beq_iff_eq.mp heq]
      exact List.mem_cons_self ..
    next => exact List.mem_cons_of_mem _ (ih h)

/-- A field is the one that was set, or was there before. -/
theorem mem_setField (h : field ∈ setField key value fields) : field = (key, value) ∨ field ∈ fields := by
  induction fields with
  | nil => exact Or.inl (List.mem_singleton.mp h)
  | cons other rest ih =>
    obtain ⟨k, v⟩ := other
    unfold setField at h
    split at h
    next => exact (List.mem_cons.mp h).imp_right (List.mem_cons_of_mem _)
    next =>
      rcases List.mem_cons.mp h with rfl | h
      · exact Or.inr (List.mem_cons_self ..)
      · exact (ih h).imp_right (List.mem_cons_of_mem _)

/-- A key that is not there is put at the end. -/
theorem setField_of_not_mem (h : key ∉ fields.map Prod.fst) :
    setField key value fields = fields ++ [(key, value)] := by
  induction fields with
  | nil => rfl
  | cons field rest ih =>
    obtain ⟨k, v⟩ := field
    rw [List.map_cons, List.mem_cons, not_or] at h
    unfold setField
    rw [if_neg (by simpa using Ne.symm h.1), ih h.2]
    rfl

/-- A key that is there keeps its place. -/
theorem names_setField_of_mem (value : α) (h : key ∈ fields.map Prod.fst) :
    (setField key value fields).map Prod.fst = fields.map Prod.fst := by
  induction fields with
  | nil => cases h
  | cons field fields ih =>
    obtain ⟨k, v⟩ := field
    unfold setField
    by_cases hk : k = key
    · rw [if_pos (by simpa using hk), List.map_cons, List.map_cons, hk]
    · have hmem : key ∈ fields.map Prod.fst := by
        rcases List.mem_cons.mp h with heq | hmem
        · exact absurd heq.symm hk
        · exact hmem
      rw [if_neg (by simpa using hk), List.map_cons, List.map_cons, ih hmem]

/-- A field that is set does not come twice. -/
theorem nodup_setField (key : String) (value : α) (h : (fields.map Prod.fst).Nodup) :
    ((setField key value fields).map Prod.fst).Nodup := by
  by_cases hkey : key ∈ fields.map Prod.fst
  · rw [names_setField_of_mem value hkey]
    exact h
  · rw [setField_of_not_mem hkey, List.map_append]
    exact h.append (List.nodup_singleton _) (List.disjoint_singleton.mpr hkey)

end Named

/-! ## Changing objects -/

/-- The value is an object. -/
def isObject : Json → Bool
  | .obj _ => true
  | _ => false

/-- The value is a list. -/
def isList : Json → Bool
  | .arr _ => true
  | _ => false

/-- The object with its fields changed one by one. -/
def mapFields (change : String → Json → Json) : Json → Json
  | .obj fields => .obj (fields.map fun field => (field.1, change field.1 field.2))
  | value => value

/-- The list with some of its items only. -/
def keepItems (keep : Json → Bool) : Json → Json
  | .arr items => .arr (items.filter keep)
  | value => value

/-- The list with its items changed one by one. -/
def mapItems (change : Json → Json) : Json → Json
  | .arr items => .arr (items.map change)
  | value => value

variable {value : Json} {key : String}

/-- A part of an object is what is found, or else what stands in for it. -/
theorem part_of_isObject (h : value.isObject = true) (fallback : Json) :
    value.part key fallback = .ok ((value.field? key).getD fallback) := by
  cases value with
  | obj fields => rfl
  | null | bool | int | float | str | arr => cases h

/-- Only objects have parts. -/
theorem isObject_of_part {fallback found : Json} (h : value.part key fallback = .ok found) :
    value.isObject = true := by
  cases value with
  | obj fields => rfl
  | null | bool | int | float | str | arr => cases h

/-- Only objects have parts that count as true. -/
theorem isObject_of_truthy (h : (value.get key).truthy = true) : value.isObject = true := by
  cases value with
  | obj fields => rfl
  | null | bool | int | float | str | arr => cases h

/-- Changing the fields of an object leaves it one. -/
@[simp] theorem isObject_mapFields (change : String → Json → Json) :
    (value.mapFields change).isObject = value.isObject := by
  cases value <;> rfl

/-- What is found then is what was found before, changed. -/
@[simp] theorem field?_mapFields (change : String → Json → Json) :
    (value.mapFields change).field? key = (value.field? key).map (change key) := by
  cases value with
  | obj fields =>
    show lookup key (fields.map _) = (lookup key fields).map _
    induction fields with
    | nil => rfl
    | cons field rest ih =>
      rw [List.map_cons]
      unfold lookup
      by_cases h : field.1 = key
      · simp [h]
      · simp [h, ih]
  | null | bool | int | float | str | arr => rfl

/-- Lists that are cleaned field by field have the items that are kept, cleaned. -/
theorem itemsAt_mapFields {change : String → Json → Json} {keep : Json → Bool} {clean : Json → Json}
    (hlist : ∀ found ∈ value.field? key, found.isList = true)
    (h : ∀ items, change key (.arr items) = .arr ((items.filter keep).map clean)) :
    (value.mapFields change).itemsAt key = ((value.itemsAt key).filter keep).map clean := by
  unfold itemsAt get
  rw [field?_mapFields]
  cases hfound : value.field? key with
  | none => rfl
  | some found =>
    cases found with
    | arr items => rw [Option.map_some, h]; rfl
    | null | bool | int | float | str | obj => cases hlist _ hfound

/-- The items of a list are its items. -/
theorem itemsAt_of_field? {items : List Json} (h : value.field? key = some (.arr items)) :
    value.itemsAt key = items := by
  unfold itemsAt get
  rw [h]
  rfl

/-- A missing part has no items. -/
theorem itemsAt_of_none (h : value.field? key = none) : value.itemsAt key = [] := by
  unfold itemsAt get
  rw [h]
  rfl

/-- A value has elements or is of the wrong type, and there is no other fault. -/
theorem elements_cases (value : Json) :
    (∃ items, value.elements = .ok items) ∨ value.elements = .error .wrongType := by
  cases value with
  | arr | str | obj => exact Or.inl ⟨_, rfl⟩
  | null | bool | int | float => exact Or.inr rfl

/-- A field that is a list if it is there yields what it lists. -/
theorem elements_field? (h : ∀ found ∈ value.field? key, found.isList = true) :
    ((value.field? key).getD (.arr [])).elements = .ok (value.itemsAt key) := by
  cases hfound : value.field? key with
  | none => rw [itemsAt_of_none hfound]; rfl
  | some found =>
    have hlist := h found hfound
    cases found with
    | arr items => rw [itemsAt_of_field? hfound]; rfl
    | null | bool | int | float | str | obj => cases hlist

end ChangeImpact.Json
