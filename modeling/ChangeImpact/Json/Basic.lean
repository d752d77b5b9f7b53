import ChangeImpact.Decimal.Binary64

/-!
# Documents

A `Json` is a JSON value.  The fields of an object keep the order in which they were
written, since several answers depend on it, and integers are told apart from numbers
with a fraction or exponent.

Ids, file paths and entity names are what documents say they are, most often texts but
not always: `Name` is the type of such a value.  The analyses compare names and hand
them on; where a text is needed, `Json.display` gives one.

Two values are the same name, `a == b`, if they have one canonical form: numbers count by
their value, so that `1`, `1.0` and `true` are one name, and objects do so whatever the order
of their fields.  It is an equivalence (`EquivBEq Json`) that is coarser than equality.
-/

namespace ChangeImpact

/-- A JSON value. -/
inductive Json where
  | null
  | bool (b : Bool)
  | int (n : Int)
  | float (x : Binary64)
  | str (s : String)
  | arr (items : List Json)
  | obj (fields : List (String × Json))
deriving Inhabited

/-- What a document gives as an id, a path or a name. -/
abbrev Name := Json

/-- What a document gives where something may be set or not: it is set if it counts as given. -/
abbrev Flag := Json

namespace Json

instance : Coe String Json := ⟨Json.str⟩

instance : Coe Bool Json := ⟨Json.bool⟩

mutual

/-- Equality of values is decided part by part. -/
def decEq : (a b : Json) → Decidable (a = b)
  | .null, .null => isTrue rfl
  | .bool a, .bool b => decidable_of_iff (a = b) ⟨fun h => h ▸ rfl, fun h => by cases h; rfl⟩
  | .int a, .int b => decidable_of_iff (a = b) ⟨fun h => h ▸ rfl, fun h => by cases h; rfl⟩
  | .float a, .float b => decidable_of_iff (a = b) ⟨fun h => h ▸ rfl, fun h => by cases h; rfl⟩
  | .str a, .str b => decidable_of_iff (a = b) ⟨fun h => h ▸ rfl, fun h => by cases h; rfl⟩
  | .arr a, .arr b =>
    match decEqItems a b with
    | isTrue h => isTrue (h ▸ rfl)
    | isFalse h => isFalse fun hab => h (by cases hab; rfl)
  | .obj a, .obj b =>
    match decEqFields a b with
    | isTrue h => isTrue (h ▸ rfl)
    | isFalse h => isFalse fun hab => h (by cases hab; rfl)
  | .null, .bool _ | .null, .int _ | .null, .float _ | .null, .str _ | .null, .arr _
  | .null, .obj _ | .bool _, .null | .bool _, .int _ | .bool _, .float _ | .bool _, .str _
  | .bool _, .arr _ | .bool _, .obj _ | .int _, .null | .int _, .bool _ | .int _, .float _
  | .int _, .str _ | .int _, .arr _ | .int _, .obj _ | .float _, .null | .float _, .bool _
  | .float _, .int _ | .float _, .str _ | .float _, .arr _ | .float _, .obj _ | .str _, .null
  | .str _, .bool _ | .str _, .int _ | .str _, .float _ | .str _, .arr _ | .str _, .obj _
  | .arr _, .null | .arr _, .bool _ | .arr _, .int _ | .arr _, .float _ | .arr _, .str _
  | .arr _, .obj _ | .obj _, .null | .obj _, .bool _ | .obj _, .int _ | .obj _, .float _
  | .obj _, .str _ | .obj _, .arr _ => isFalse fun h => by cases h

/-- Equality of lists of values. -/
def decEqItems : (as bs : List Json) → Decidable (as = bs)
  | [], [] => isTrue rfl
  | [], _ :: _ => isFalse fun h => by cases h
  | _ :: _, [] => isFalse fun h => by cases h
  | a :: as, b :: bs =>
    match decEq a b, decEqItems as bs with
    | isTrue h, isTrue hs => isTrue (h ▸ hs ▸ rfl)
    | isFalse h, _ => isFalse fun hab => h (by cases hab; rfl)
    | _, isFalse hs => isFalse fun hab => hs (by cases hab; rfl)

/-- Equality of lists of fields. -/
def decEqFields : (as bs : List (String × Json)) → Decidable (as = bs)
  | [], [] => isTrue rfl
  | [], _ :: _ => isFalse fun h => by cases h
  | _ :: _, [] => isFalse fun h => by cases h
  | (k, a) :: as, (l, b) :: bs =>
    if hk : k = l then
      match decEq a b, decEqFields as bs with
      | isTrue h, isTrue hs => isTrue (hk ▸ h ▸ hs ▸ rfl)
      | isFalse h, _ => isFalse fun hab => h (by cases hab; rfl)
      | _, isFalse hs => isFalse fun hab => hs (by cases hab; rfl)
    else isFalse fun hab => hk (by cases hab; rfl)

end

instance : DecidableEq Json := decEq

/-- Inserts a field among fields sorted by name. -/
def insertSorted (field : String × Json) : List (String × Json) → List (String × Json)
  | [] => [field]
  | other :: rest =>
    if field.1 < other.1 then field :: other :: rest else other :: insertSorted field rest

/-- A number that is whole as an integer, any other one as it is. -/
def ofNumber (x : Binary64) : Json :=
  match x.toRat? with
  | some r => if r.den = 1 then .int r.num else .float x
  | none => .float x

mutual

/-- The form that all values which are one name have in common. -/
def canonical : Json → Json
  | .null => .null
  | .bool b => .int (if b then 1 else 0)
  | .int n => .int n
  | .float x => ofNumber x
  | .str s => .str s
  | .arr items => .arr (canonicalItems items)
  | .obj fields => .obj (canonicalFields fields)

/-- The items of a list in canonical form. -/
def canonicalItems : List Json → List Json
  | [] => []
  | item :: rest => canonical item :: canonicalItems rest

/-- The fields of an object in canonical form, sorted by name. -/
def canonicalFields : List (String × Json) → List (String × Json)
  | [] => []
  | (key, value) :: rest => insertSorted (key, canonical value) (canonicalFields rest)

end

/-- Whether two values are the same name. -/
instance : BEq Json := ⟨fun a b => a.canonical = b.canonical⟩

theorem beq_iff (a b : Json) : (a == b) = true ↔ a.canonical = b.canonical := by
  simp [BEq.beq]

instance : EquivBEq Json where
  rfl := by simp [beq_iff]
  symm := by simp only [beq_iff]; exact Eq.symm
  trans := by simp only [beq_iff]; exact Eq.trans

/-- Texts are the same name only if they are equal. -/
@[simp] theorem beq_str (s t : String) : (Json.str s == Json.str t) = decide (s = t) := by
  simp [BEq.beq, canonical]

/-- Whether a value is the number NaN. -/
def isNaN : Json → Bool
  | .float x => x.isNaN
  | _ => false

/-- Whether a comparison finds two values equal: they are the same name, and not NaN, which
equals nothing. -/
def equals (a b : Json) : Bool := a == b && !a.isNaN

/-- A comparison finds texts equal only if they are. -/
@[simp] theorem equals_str (s t : String) : (Json.str s).equals (.str t) = decide (s = t) := by
  simp [equals, isNaN]

/-- Whether a value counts as given: not null, false, zero or empty. -/
def truthy : Json → Bool
  | .null => false
  | .bool b => b
  | .int n => n != 0
  | .float x => !x.isZero
  | .str s => s != ""
  | .arr items => !items.isEmpty
  | .obj fields => !fields.isEmpty

/-- Of two flags the first one that is set, or else the second. -/
def orElse (a b : Flag) : Flag := if a.truthy then a else b

/-- The value of a field, if the object has it. -/
def lookup {α : Type} (key : String) : List (String × α) → Option α
  | [] => none
  | (k, v) :: rest => if k == key then some v else lookup key rest

/-- The value of a field of an object, if there is one. -/
def field? (key : String) : Json → Option Json
  | .obj fields => lookup key fields
  | _ => none

/-- Sets a field: in its place if the object has it, as the last one otherwise. -/
def setField {α : Type} (key : String) (value : α) : List (String × α) → List (String × α)
  | [] => [(key, value)]
  | (k, v) :: rest => if k == key then (key, value) :: rest else (k, v) :: setField key value rest

/-- An object from fields in order: of two with one key the last value stays, in the
place of the first. -/
def ofFields (fields : List (String × Json)) : Json :=
  .obj (fields.foldl (fun known (key, value) => setField key value known) [])

/-- Whether a value may be a key: no list and no object. -/
def isKey : Json → Bool
  | .arr _ | .obj _ => false
  | _ => true

/-- The text, if the value is one. -/
def text? : Json → Option String
  | .str s => some s
  | _ => none

/-- A value of an optional field. -/
def ofOption (toJson : α → Json) : Option α → Json
  | none => .null
  | some a => toJson a

/-! ## Fields -/

theorem lookup_setField {α : Type} (key : String) (value : α) (fields : List (String × α)) :
    lookup key (setField key value fields) = some value := by
  induction fields with
  | nil => simp [setField, lookup]
  | cons field rest ih =>
    obtain ⟨k, v⟩ := field
    by_cases h : k = key <;> simp [setField, lookup, h, ih]

theorem lookup_setField_of_ne {α : Type} {key other : String} (h : key ≠ other) (value : α)
    (fields : List (String × α)) :
    lookup other (setField key value fields) = lookup other fields := by
  induction fields with
  | nil => simp [setField, lookup, h]
  | cons field rest ih =>
    obtain ⟨k, v⟩ := field
    by_cases hk : k = key
    · subst hk; simp [setField, lookup, h]
    · by_cases ho : k = other <;> simp [setField, lookup, hk, ho, ih, Ne.symm h]

end Json

end ChangeImpact
