import ChangeImpact.Json.Basic
import ChangeImpact.Toml.Value

/-!
# Tables in another order

A table may be written in another order than it was made in, and says the same. Two values agree if they
are equal once the fields of their tables, however deep, are put in the order of their keys.

> `at?_of_agree`: values that agree have values that agree under every key.

Equality of values is decided part by part, and so is agreement.
-/

namespace ChangeImpact.Toml

/-! ## Equal values -/

namespace Value

mutual

/-- Whether two values are equal. -/
def same : Value → Value → Bool
  | .null, .null => true
  | .truth a, .truth b => a == b
  | .whole a, .whole b => a == b
  | .number a, .number b => a == b
  | .text a, .text b => a == b
  | .moment a, .moment b => a == b
  | .list as, .list bs => sameItems as bs
  | .table fs, .table gs => sameFields fs gs
  | _, _ => false

/-- Whether two lists of values are equal. -/
def sameItems : List Value → List Value → Bool
  | [], [] => true
  | a :: as, b :: bs => same a b && sameItems as bs
  | _, _ => false

/-- Whether two lists of fields are equal. -/
def sameFields : List (String × Value) → List (String × Value) → Bool
  | [], [] => true
  | (k, a) :: fs, (l, b) :: gs => k == l && same a b && sameFields fs gs
  | _, _ => false

end

mutual

/-- Values are compared part by part. -/
theorem same_iff : ∀ a b : Value, same a b = true ↔ a = b
  | .null, b | .truth _, b | .whole _, b | .number _, b | .text _, b | .moment _, b => by
    cases b <;> simp [same]
  | .list as, b => by cases b <;> simp [same, sameItems_iff as]
  | .table fs, b => by cases b <;> simp [same, sameFields_iff fs]

theorem sameItems_iff : ∀ as bs : List Value, sameItems as bs = true ↔ as = bs
  | [], bs => by cases bs <;> simp [sameItems]
  | a :: as, bs => by cases bs <;> simp [sameItems, same_iff a, sameItems_iff as]

theorem sameFields_iff : ∀ fs gs : List (String × Value), sameFields fs gs = true ↔ fs = gs
  | [], gs => by cases gs <;> simp [sameFields]
  | (k, a) :: fs, gs => by
    cases gs <;> simp [sameFields, same_iff a, sameFields_iff fs, Prod.ext_iff, and_assoc]

end

instance : DecidableEq Value := fun a b => decidable_of_iff _ (same_iff a b)

/-! ## Values in order -/

/-- Sets a field among fields in the order of their keys. -/
def insertField (key : String) (value : Value) : List (String × Value) → List (String × Value)
  | [] => [(key, value)]
  | (other, old) :: rest =>
    if key < other then (key, value) :: (other, old) :: rest
    else if key = other then (key, value) :: rest
    else (other, old) :: insertField key value rest

mutual

/-- The value with the fields of its tables in the order of their keys. -/
def sorted : Value → Value
  | .list items => .list (sortedItems items)
  | .table fields => .table (sortedFields fields)
  | .null => .null
  | .truth b => .truth b
  | .whole n => .whole n
  | .number x => .number x
  | .text s => .text s
  | .moment m => .moment m

/-- The items of a list with the fields of their tables in order. -/
def sortedItems : List Value → List Value
  | [] => []
  | item :: rest => sorted item :: sortedItems rest

/-- The fields of a table in order, and those of the tables inside it. -/
def sortedFields : List (String × Value) → List (String × Value)
  | [] => []
  | (key, value) :: rest => insertField key (sorted value) (sortedFields rest)

end

/-- Inserting a field in order sets it. -/
theorem lookup_insertField (key other : String) (value : Value) (fields : List (String × Value)) :
    Json.lookup other (insertField key value fields) =
      if key = other then some value else Json.lookup other fields := by
  induction fields with
  | nil => simp [insertField, Json.lookup]
  | cons field rest ih =>
    obtain ⟨known, old⟩ := field
    unfold insertField
    split
    next => simp [Json.lookup]
    next =>
      split
      next heq =>
        subst heq
        by_cases hkey : key = other <;> simp [Json.lookup, hkey]
      next hne =>
        by_cases hknown : known = other
        · have hother : key ≠ other := fun heq => hne (heq.trans hknown.symm)
          simp [Json.lookup, hknown, hother]
        · simp [Json.lookup, hknown, ih]

/-- Order does not matter to what is looked up. -/
theorem lookup_sortedFields (key : String) (fields : List (String × Value)) :
    Json.lookup key (sortedFields fields) = (Json.lookup key fields).map sorted := by
  induction fields with
  | nil => rfl
  | cons field rest ih =>
    obtain ⟨known, value⟩ := field
    rw [sortedFields, lookup_insertField, ih]
    by_cases hknown : known = key <;> simp [Json.lookup, hknown]

/-- The value of a key of a table. -/
def at? (key : String) : Value → Option Value
  | .table fields => Json.lookup key fields
  | _ => none

/-- Looking something up does not depend on the order of fields. -/
theorem at?_sorted (key : String) (value : Value) : value.sorted.at? key = (value.at? key).map sorted := by
  cases value with
  | table fields => exact lookup_sortedFields key fields
  | null | truth | whole | number | text | moment | list => rfl

/-- The values agree up to the order of fields. -/
def Agree (a b : Value) : Prop := a.sorted = b.sorted

instance (a b : Value) : Decidable (Agree a b) := inferInstanceAs (Decidable (_ = _))

/-- Values that agree have values that agree under every key. -/
theorem at?_of_agree {a b : Value} (h : Agree a b) (key : String) :
    (a.at? key).map sorted = (b.at? key).map sorted := by
  rw [← at?_sorted, ← at?_sorted, h]

instance decidableIsTable : (value : Value) → Decidable (∃ fields, value = .table fields)
  | .table fields => isTrue ⟨fields, rfl⟩
  | .null | .truth _ | .whole _ | .number _ | .text _ | .moment _ | .list _ => isFalse fun h => by
    obtain ⟨fields, hfields⟩ := h
    cases hfields

/-- What agrees with a table is a table. -/
theorem exists_table_of_agree {value : Value} {fields : List (String × Value)}
    (h : Agree value (.table fields)) : ∃ others, value = .table others := by
  cases value with
  | table others => exact ⟨others, rfl⟩
  | null | truth | whole | number | text | moment | list => simp [Agree, sorted] at h

end Value

end ChangeImpact.Toml
