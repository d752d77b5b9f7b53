import ChangeImpact.Fault
import ChangeImpact.Text.Search

/-!
# Records

Requests and documents describe changes, scopes and flows as objects.  A `Schema` says
which fields an object may have, which it must have and what stands in for the others.
`Schema.build` checks an object against it and completes it; some fields have to hold one
of a set of words.

Beyond that a record holds whatever was written.  The types of the library are read out of
records by total functions, which take a part of the wrong kind as empty; an analysis that
needs a part faults on such a record before it starts.
-/

namespace ChangeImpact

/-- A field of a record: its name and, unless it must be given, what stands in for it. -/
structure Schema.Field where
  name : String
  fallback : Option Json

/-- A field whose value has to be one of some words, or null where that is allowed. -/
structure Schema.Choice where
  field : String
  what : String
  words : List String
  mayBeNull : Bool

/-- The shape of a record. -/
structure Schema where
  fields : List Schema.Field
  choices : List Schema.Choice

namespace Schema

/-- A field that must be given. -/
def Field.required (name : String) : Field := ⟨name, none⟩

/-- A field that may be left out. -/
def Field.optional (name : String) (fallback : Json) : Field := ⟨name, some fallback⟩

/-- The value of a field of the record. -/
def fieldOf (given : List (String × Json)) (field : Field) : Checked (String × Json) :=
  match Json.lookup field.name given, field.fallback with
  | some value, _ | none, some value => .ok (field.name, value)
  | none, none => .error .wrongType

/-- Checks a field that is restricted to some words. -/
def checkChoice (record : List (String × Json)) (choice : Choice) : Checked Unit :=
  let value := (Json.lookup choice.field record).getD .null
  if choice.mayBeNull && value = .null then .ok ()
  else guardThat (choice.words.any fun word => value = .str word)
    (.invalidChoice choice.what value choice.words)

/-- The complete record of an object, with its fields in the order of the schema. -/
def build (schema : Schema) (given : Json) : Checked Json := do
  match given with
  | .obj fields =>
    guardThat (fields.all fun field => schema.fields.any fun known => known.name == field.1)
      .wrongType
    let record ← schema.fields.mapM (fieldOf fields)
    schema.choices.forM (checkChoice record)
    return .obj record
  | _ => throw .wrongType

end Schema

namespace Json

/-- A field of a record; null if it has none. -/
def get (record : Json) (name : String) : Json := (record.field? name).getD .null

/-- The items of a field of a record; none if it holds nothing that has items. -/
def itemsAt (record : Json) (name : String) : List Json :=
  match (record.get name).elements with
  | .ok items => items
  | .error _ => []

/-- Faults unless a field of a record holds something that has items. -/
def needItems (record : Json) (name : String) : Checked (List Json) := (record.get name).elements

/-- Faults unless every one of some values is a text. -/
def needTexts (values : List Json) (fault : Fault) : Checked Unit :=
  guardThat (values.all fun value => value.text?.isSome) fault

/-- Faults unless every one of some values may be a key. -/
def needKeys (values : List Json) : Checked Unit := guardThat (values.all isKey) .wrongType

/-- Whether a value is found in another one: among the items of a list, as a field of an object
or as a piece of a text. -/
def holds (container value : Json) : Checked Bool :=
  match container, value with
  | .arr items, _ => .ok (items.contains value)
  | .obj fields, .str key => .ok (fields.any fun field => field.1 == key)
  | .obj _, _ => do
    needKeys [value]
    return false
  | .str text, .str piece => .ok (Text.contains piece text)
  | _, _ => .error .wrongType

@[simp] theorem holds_arr (items : List Json) (value : Json) :
    (Json.arr items).holds value = .ok (items.contains value) := by
  cases value <;> rfl

end Json

end ChangeImpact
