import ChangeImpact.Record
import ChangeImpact.Text.Case
import ChangeImpact.Toml.Value

/-!
# Settings

Settings come in three sections, each with a default for every key.  What is stored goes on
top of the defaults, key by key, and stored keys without a default are kept.  A section may also be
stored as a list of pairs, whose keys need not be texts.  A setting given as a text is converted to the
kind of its default: a truth value, a whole number, a number or a text.

`effective`, `coerce`, `assign` and `discard` are what the operations `load_section`, `coerce_value`,
`set_value` and `reset_section` do with settings that were read.
-/

namespace ChangeImpact

/-- Stored settings: sections by name. -/
abbrev StoredSettings := List (String × Toml.Value)

namespace Settings

/-- The keys and values of a section. -/
abbrev Fields := List (Name × Toml.Value)

/-- The defaults of every section. -/
def sections : List (String × List (String × Toml.Value)) :=
  [("scope",
    [("max_depth", .whole 3), ("include_indirect", .truth true), ("expand_imports", .truth true),
      ("expand_data_flows", .truth true)]),
   ("references",
    [("created_by", .text "system"), ("default_limit", .whole 100),
      ("timeout", .number (.ofNat 5))]),
   ("validation",
    [("include_module_tests", .truth true), ("include_data_flow_validations", .truth true),
      ("include_api_validations", .truth true), ("test_command", .text "pytest"),
      ("module_path_prefix", .text "tests/")])]

/-- The names of the sections. -/
def sectionNames : List String := sections.map Prod.fst

/-- The defaults of a section, if it is one. -/
def defaults? (name : String) : Option (List (String × Toml.Value)) :=
  (sections.find? fun known => known.1 = name).map Prod.snd

/-- Fields with texts as keys. -/
def byName (fields : List (String × Toml.Value)) : Fields :=
  fields.map fun (key, value) => (.str key, value)

/-- Fields with one of them set: in its place if there is such a key, as the last one
otherwise. -/
def setField (key : Name) (value : Toml.Value) : Fields → Fields
  | [] => [(key, value)]
  | (known, old) :: rest =>
    if known == key then (known, value) :: rest else (known, old) :: setField key value rest

/-- Fields with others on top of them. -/
def overlay (base added : Fields) : Fields :=
  added.foldl (fun fields field => setField field.1 field.2 fields) base

/-- The key and the value that an entry of a list gives. -/
def pair (position : Nat) (entry : Toml.Value) : Checked (Name × Toml.Value) := do
  match ← entry.elements with
  | [key, value] =>
    Json.needKeys [key.toJson]
    return (key.toJson, value)
  | parts => throw (.notPair position parts.length)

/-- The pairs of a list, whose first entry has the given position. -/
def pairs : Nat → List Toml.Value → Checked Fields
  | _, [] => .ok []
  | position, entry :: rest => do
    let first ← pair position entry
    return first :: (← pairs (position + 1) rest)

/-- The keys and values of a stored section: a table, or a list of pairs. -/
def stored : Toml.Value → Checked Fields
  | .table fields => .ok (byName fields)
  | value => do pairs 0 (← value.elements)

/-- A section: what is stored of it on top of its defaults. -/
def effective (settings : StoredSettings) (name : String) : Checked Fields := do
  let known := byName ((defaults? name).getD [])
  return overlay known (← stored ((Json.lookup name settings).getD (.table [])))

/-! ## Values -/

/-- The words for true. -/
def trueWords : List String := ["1", "true", "yes", "on"]

/-- The words for false. -/
def falseWords : List String := ["0", "false", "no", "off"]

/-- A value as a whole number; numbers lose their places. -/
def toInt (value : Toml.Value) : Checked Int :=
  match value with
  | .text raw => Numeral.readInt raw
  | .whole n => .ok n
  | .truth b => .ok (if b then 1 else 0)
  | .number x =>
    match x.toRat? with
    | some r => .ok (if r < 0 then r.ceil else r.floor)
    | none => .error (if x.isNaN then .nanToInteger else .infinityToInteger)
  | _ => .error .wrongType

/-- A value as a number. -/
def toNumber (value : Toml.Value) : Checked Binary64 :=
  match value with
  | .text raw => Numeral.readFloat raw
  | .whole n =>
    let x := Binary64.ofRat n
    if x.isFinite then .ok x else .error .integerBeyondNumbers
  | .truth b => .ok (Binary64.ofNat (if b then 1 else 0))
  | .number x => .ok x
  | _ => .error .wrongType

/-- Whether a value counts as given; a moment always does. -/
def isGiven (value : Toml.Value) : Bool := value.toJson.truthy

/-! ## Changing settings -/

/-- A value as a truth value, which only words give. -/
def toTruth (name key : String) (value : Toml.Value) : Checked Bool := do
  let raw ← value.toJson.needText
  let word := Text.lower (Text.trim raw)
  if trueWords.contains word then return true
  else if falseWords.contains word then return false
  else throw (.notBoolean name key raw)

/-- A value converted to the kind of a default. -/
def convert (name key : String) (default raw : Toml.Value) : Checked Toml.Value :=
  match default with
  | .truth _ => (toTruth name key raw).map Toml.Value.truth
  | .whole _ => (toInt raw).map Toml.Value.whole
  | .number _ => (toNumber raw).map Toml.Value.number
  | _ => .ok raw

/-- The default of a setting. -/
def default? (name key : String) : Option Toml.Value :=
  (defaults? name).bind fun known => Json.lookup key known

/-- The value that a setting is given by a raw one. -/
def coerce (name key : String) (raw : Toml.Value) : Checked Toml.Value :=
  match default? name key with
  | some default => convert name key default raw
  | none => .error (.unknownSetting name key)

/-- The value that a setting is given, whose section and key may be any values. -/
def coerceGiven (name key : Name) (raw : Toml.Value) : Checked Toml.Value := do
  Json.needKeys [name]
  match name, key with
  | .str name, .str key => coerce name key raw
  | .str known, key =>
    if (defaults? known).isSome then Json.needKeys [key]
    throw (.unknownSetting known key.display)
  | _, _ => throw (.unknownSetting name.display key.display)

/-- The settings with a value stored in a section. -/
def assign (settings : StoredSettings) (name key : String) (value : Toml.Value) :
    Checked StoredSettings :=
  match (Json.lookup name settings).getD (.table []) with
  | .table fields => .ok (Json.setField name (.table (Json.setField key value fields)) settings)
  | _ => .error .wrongType

/-- The settings without a section. -/
def discard (settings : StoredSettings) (name : String) : StoredSettings :=
  settings.filter fun known => known.1 ≠ name

/-! ## Settings of the analyses -/

/-- A section with what is given on top; null gives nothing. -/
def withGiven (settings : StoredSettings) (name : String) (given : List (String × Json)) :
    Checked Fields := do
  let added := (given.filter fun field => field.2 ≠ .null).map fun (key, value) =>
    (Json.str key, Toml.Value.ofJson value)
  return overlay (← effective settings name) added

/-- A setting of a section; null if it is missing. -/
def get (fields : Fields) (key : String) : Toml.Value :=
  ((fields.find? fun field => field.1 == Json.str key).map Prod.snd).getD .null

end Settings

end ChangeImpact
