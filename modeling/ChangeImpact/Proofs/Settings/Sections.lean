import ChangeImpact.Proofs.Json.Names
import ChangeImpact.Proofs.Toml.Agreement
import ChangeImpact.Proofs.Toml.Tables
import ChangeImpact.Settings.Section

/-!
# What sections say

A section is read key by key: what is stored under a key, or else its default. That is so for tables
without a key twice, of which each value is put on top of the defaults once (`valueAt_effective`).

> `coerce_eq_ok`: a text is converted to the kind of a default that the setting has, and to no other.

A change of the stored settings sets one key or drops one section, which is all that it does to what is
stored under the keys of any section:

> `changes_of_changed`: what is stored afterwards of that section, and that the others are as they were.
-/

namespace ChangeImpact.Settings

open Toml (Value)

variable {settings : StoredSettings} {name key raw : String} {default value : Value}
  {fields : List (String × Value)}

/-! ## Reading a section -/

/-- The value of a key in a section. -/
def valueAt (fields : Fields) (key : String) : Option Value :=
  (fields.find? fun field => field.1 == Json.str key).map Prod.snd

/-- What is stored of a setting. -/
def stored? (settings : StoredSettings) (name key : String) : Option Value :=
  (Json.lookup name settings).bind (Value.at? key)

/-- Settings that agree store values that agree. -/
theorem stored?_of_agree {other : StoredSettings} (h : Value.Agree (.table settings) (.table other))
    (name key : String) :
    (stored? settings name key).map Value.sorted = (stored? other name key).map Value.sorted := by
  have hsection : (Json.lookup name settings).map Value.sorted = (Json.lookup name other).map Value.sorted :=
    Value.at?_of_agree h name
  unfold stored?
  cases hown : Json.lookup name settings with
  | none =>
    rw [hown] at hsection
    rw [Option.map_eq_none_iff.mp hsection.symm]
  | some value =>
    rw [hown] at hsection
    obtain ⟨found, hfound, hagree⟩ := Option.map_eq_some_iff.mp hsection.symm
    rw [hfound]
    exact Value.at?_of_agree hagree.symm key

/-- The known sections are tables, as far as they are stored. -/
def HasTables (settings : StoredSettings) : Prop :=
  ∀ name ∈ sectionNames, ∀ value ∈ Json.lookup name settings, ∃ fields, value = .table fields

instance (settings : StoredSettings) : Decidable (HasTables settings) :=
  inferInstanceAs (Decidable (∀ name ∈ sectionNames, _))

/-- Settings that agree with tables have tables. -/
theorem HasTables.of_agree {other : StoredSettings} (h : HasTables other)
    (hagree : Value.Agree (.table settings) (.table other)) : HasTables settings := by
  intro name hname value hvalue
  have hsection : (Json.lookup name settings).map Value.sorted = (Json.lookup name other).map Value.sorted :=
    Value.at?_of_agree hagree name
  rw [hvalue] at hsection
  obtain ⟨found, hfound, hsorted⟩ := Option.map_eq_some_iff.mp hsection.symm
  obtain ⟨fields, rfl⟩ := h name hname found hfound
  exact Value.exists_table_of_agree hsorted.symm

/-- Fields by name have the values that are looked up under these names. -/
theorem valueAt_byName (fields : List (String × Value)) (key : String) :
    valueAt (byName fields) key = Json.lookup key fields := by
  induction fields with
  | nil => rfl
  | cons field rest ih =>
    obtain ⟨known, value⟩ := field
    unfold valueAt byName at ih ⊢
    rw [List.map_cons, List.find?_cons]
    unfold Json.lookup
    by_cases h : known = key
    · simp [h]
    · simpa [h] using ih

theorem name_beq_iff {a : Name} {s : String} : (a == Json.str s) = true ↔ a = .str s := by
  rw [BEq.comm, Json.beq_str_iff]

/-- Setting a field changes the value under its name alone. -/
theorem valueAt_setField (fields : Fields) (known key : String) (value : Value) :
    valueAt (setField (.str known) value fields) key =
      if known = key then some value else valueAt fields key := by
  induction fields with
  | nil => by_cases h : known = key <;> simp [valueAt, setField, h]
  | cons field rest ih =>
    obtain ⟨other, old⟩ := field
    unfold valueAt at ih ⊢
    unfold setField
    by_cases hother : other = .str known
    · subst hother
      rw [if_pos BEq.rfl]
      by_cases h : known = key <;> simp [h]
    · rw [if_neg (mt name_beq_iff.mp hother), List.find?_cons, List.find?_cons]
      split
      next hkey =>
        have hne : known ≠ key := fun heq => hother (heq ▸ name_beq_iff.mp hkey)
        rw [if_neg hne]
      next => exact ih

/-- On top of other fields, each field of a table takes the place of the one with its key. -/
theorem valueAt_overlay (h : (fields.map Prod.fst).Nodup) (base : Fields) (key : String) :
    valueAt (overlay base (byName fields)) key = (Json.lookup key fields).or (valueAt base key) := by
  induction fields generalizing base with
  | nil => rfl
  | cons field rest ih =>
    obtain ⟨known, value⟩ := field
    obtain ⟨hnew, hrest⟩ := List.nodup_cons.mp h
    show valueAt (overlay (setField (.str known) value base) (byName rest)) key = _
    rw [ih hrest, valueAt_setField, Json.lookup_cons]
    by_cases hkey : known = key
    · -- the key does not come again, so that its value stays
      have hnone : Json.lookup key rest = none := by
        rw [Option.eq_none_iff_forall_ne_some]
        intro later hlater
        have hmem : (key, later) ∈ rest := Json.mem_of_lookup hlater
        exact hnew (List.mem_map.mpr ⟨_, hmem, hkey.symm⟩)
      simp [hkey, hnone]
    · simp [hkey]

/-- A section has what is stored under a key, or else its default. -/
theorem valueAt_effective (hname : name ∈ sectionNames) (htables : HasTables settings)
    (hproper : (Value.table settings).IsProper) : ∃ fields, effective settings name = .ok fields ∧
      ∀ key, valueAt fields key = (stored? settings name key).or (default? name key) := by
  have hdefault : ∀ key, valueAt (byName ((defaults? name).getD [])) key = default? name key := by
    intro key
    rw [valueAt_byName]
    unfold default?
    cases defaults? name <;> rfl
  unfold effective stored?
  cases hfound : Json.lookup name settings with
  | none => exact ⟨_, rfl, hdefault⟩
  | some value =>
    obtain ⟨fields, rfl⟩ := htables name hname value hfound
    have hnodup := (hproper.of_mem_fields _ (Json.mem_of_lookup hfound)).nodup
    refine ⟨_, rfl, fun key => ?_⟩
    rw [valueAt_overlay hnodup, hdefault]
    rfl

/-! ## Converting texts -/

/-- A text says a value of the kind of a default: one of the words for a truth value, a number as it is
written, or the text itself. -/
inductive Converts (raw : String) : Value → Value → Prop
  | truth {b c : Bool} (h : Text.lower (Text.trim raw) ∈ if c then trueWords else falseWords) :
      Converts raw (.truth b) (.truth c)
  | whole {m n : Int} (h : Numeral.readInt raw = .ok n) : Converts raw (.whole m) (.whole n)
  | number {x y : Binary64} (h : Numeral.readFloat raw = .ok y) : Converts raw (.number x) (.number y)
  | text {s : String} : Converts raw (.text s) (.text raw)

/-- Defaults are truth values, whole numbers, numbers and texts. -/
def isSimple : Value → Bool
  | .truth _ | .whole _ | .number _ | .text _ => true
  | _ => false

/-- Every default belongs to a section. -/
theorem mem_of_default (h : default? name key = some default) :
    ∃ known ∈ sections, known.1 = name ∧ (key, default) ∈ known.2 := by
  obtain ⟨fields, hfields, hlookup⟩ := Option.bind_eq_some_iff.mp h
  obtain ⟨known, hknown, rfl⟩ := Option.map_eq_some_iff.mp hfields
  have hname := List.find?_some hknown
  exact ⟨known, List.mem_of_find?_eq_some hknown, of_decide_eq_true hname, Json.mem_of_lookup hlookup⟩

/-- Defaults are truth values, numbers or texts. -/
theorem isSimple_of_default (h : default? name key = some default) : isSimple default = true := by
  have hall : ∀ known ∈ sections, ∀ field ∈ known.2, isSimple field.2 = true := by
    decide +kernel
  obtain ⟨known, hknown, -, hfield⟩ := mem_of_default h
  exact hall known hknown _ hfield

/-- Their sections are the known ones. -/
theorem mem_sectionNames_of_default (h : default? name key = some default) : name ∈ sectionNames := by
  obtain ⟨known, hknown, rfl, -⟩ := mem_of_default h
  exact List.mem_map_of_mem hknown

/-- A truth value is one of the words for it, whatever the case and with blanks around it. -/
theorem toTruth_eq_ok {b : Bool} : toTruth name key (.text raw) = .ok b ↔
    Text.lower (Text.trim raw) ∈ if b then trueWords else falseWords := by
  have hapart : ∀ word ∈ falseWords, word ∉ trueWords := by decide
  have hraw : (Value.text raw).toJson.needText = .ok raw := rfl
  unfold toTruth
  rw [hraw, Checked.ok_bind]
  dsimp only
  -- a word for true is looked for first, which would not matter: no word is for both
  split
  next htrue =>
    rw [List.contains_iff_mem] at htrue
    cases b with
    | true => simpa using htrue
    | false => simpa using fun hfalse => hapart _ hfalse htrue
  next hnot =>
    rw [List.contains_iff_mem] at hnot
    split
    next hfalse =>
      rw [List.contains_iff_mem] at hfalse
      cases b with
      | true => simpa using hnot
      | false => simpa using hfalse
    next hneither =>
      rw [List.contains_iff_mem] at hneither
      cases b with
      | true => simpa [throw, throwThe, MonadExceptOf.throw] using hnot
      | false => simpa [throw, throwThe, MonadExceptOf.throw] using hneither

/-- Converting succeeds with the values that it is meant to give, and no others. -/
theorem convert_eq_ok (h : isSimple default = true) :
    convert name key default (.text raw) = .ok value ↔ Converts raw default value := by
  -- each kind of default has its own reader, and `Converts` one constructor for it
  cases default with
  | truth b =>
    show (toTruth name key (.text raw)).map Value.truth = .ok value ↔ _
    simp only [Checked.map_eq_ok, toTruth_eq_ok]
    constructor
    · rintro ⟨c, hc, rfl⟩
      exact .truth hc
    · intro h
      cases h with
      | truth hc => exact ⟨_, hc, rfl⟩
  | whole m =>
    show (Numeral.readInt raw).map Value.whole = .ok value ↔ _
    rw [Checked.map_eq_ok]
    constructor
    · rintro ⟨n, hn, rfl⟩
      exact .whole hn
    · intro h
      cases h with
      | whole hn => exact ⟨_, hn, rfl⟩
  | number x =>
    show (Numeral.readFloat raw).map Value.number = .ok value ↔ _
    rw [Checked.map_eq_ok]
    constructor
    · rintro ⟨y, hy, rfl⟩
      exact .number hy
    · intro h
      cases h with
      | number hy => exact ⟨_, hy, rfl⟩
  | text s =>
    show (Except.ok (Value.text raw) : Checked Value) = .ok value ↔ _
    rw [Except.ok.injEq]
    constructor
    · rintro rfl
      exact .text
    · rintro ⟨⟩
      rfl
  | null | moment | list | table => cases h

/-- A text is converted to the kind of a default that the setting has. -/
theorem coerce_eq_ok : coerce name key (.text raw) = .ok value ↔
    ∃ default, default? name key = some default ∧ Converts raw default value := by
  unfold coerce
  cases hdefault : default? name key with
  | none => simp
  | some default =>
    dsimp only
    rw [convert_eq_ok (isSimple_of_default hdefault)]
    simp

/-! ## Changing what is stored -/

/-- A change of the stored settings: a setting is given a text, or a section is dropped. -/
inductive Edit where
  | set (name key raw : String)
  | reset (name : String)
deriving DecidableEq

namespace Edit

/-- The name of the section that an edit changes. -/
def target : Edit → String
  | .set name _ _ => name
  | .reset name => name

/-- The settings with the change made to them. -/
def changed (settings : StoredSettings) : Edit → Checked StoredSettings
  | .set name key raw => do assign settings name key (← coerce name key (.text raw))
  | .reset name => .ok (discard settings name)

/-- What an edit leaves stored of a setting; nothing if it does not change that. -/
def leaves (name key : String) : Edit → Option (Option Value)
  | .set known other raw =>
    if known = name ∧ other = key then (coerce name key (.text raw)).toOption.map some else none
  | .reset known => if known = name then some none else none

end Edit

/-- Discarding a section leaves the others. -/
theorem lookup_discard (settings : StoredSettings) (name other : String) :
    Json.lookup other (discard settings name) = if name = other then none else Json.lookup other settings := by
  induction settings with
  | nil => simp [discard, Json.lookup]
  | cons known rest ih =>
    obtain ⟨known, value⟩ := known
    unfold discard at ih ⊢
    by_cases hknown : known = name
    · rw [List.filter_cons_of_neg (by simpa using hknown), ih, Json.lookup_cons]
      subst hknown
      split
      next => rfl
      next => rfl
    · rw [List.filter_cons_of_pos (by simpa using hknown), Json.lookup_cons, Json.lookup_cons, ih]
      by_cases hother : name = other
      · rw [if_pos hother, if_pos hother, if_neg fun heq => hknown (heq.trans hother.symm)]
      · rw [if_neg hother, if_neg hother]

/-- What is stored of a setting depends on its section alone. -/
theorem stored?_congr {other : StoredSettings} (h : Json.lookup name settings = Json.lookup name other)
    (key : String) : stored? settings name key = stored? other name key := by
  unfold stored?
  rw [h]

theorem stored?_of_lookup (h : Json.lookup name settings = some (.table fields)) (key : String) :
    stored? settings name key = Json.lookup key fields := by
  unfold stored?
  rw [h]
  rfl

/-- What one change does. -/
structure Changes (edit : Edit) (settings changed : StoredSettings) : Prop where
  tables : HasTables changed
  rest : ∀ other, other ≠ edit.target → Json.lookup other changed = Json.lookup other settings
  stored : ∀ name key, stored? changed name key = (edit.leaves name key).getD (stored? settings name key)

/-- **Resetting.** Discarding a section changes what a reset is meant to change. -/
theorem changes_reset (htables : HasTables settings) (name : String) :
    Changes (.reset name) settings (discard settings name) := by
  have hrest : ∀ other, other ≠ name → Json.lookup other (discard settings name) =
      Json.lookup other settings := fun other hother => by
    rw [lookup_discard, if_neg (Ne.symm hother)]
  refine ⟨fun other hother value hvalue => ?_, hrest, fun other key => ?_⟩
  · rw [lookup_discard] at hvalue
    split at hvalue
    next => cases hvalue
    next => exact htables other hother value hvalue
  · rw [Edit.leaves]
    by_cases h : name = other
    · rw [if_pos h]
      unfold stored?
      rw [lookup_discard, if_pos h]
      rfl
    · rw [if_neg h]
      exact stored?_congr (hrest other (Ne.symm h)) key

/-- The table of a known section, empty if there is none. -/
theorem exists_table (htables : HasTables settings) (hname : name ∈ sectionNames) :
    ∃ fields, (Json.lookup name settings).getD (.table []) = .table fields ∧
      ∀ key, stored? settings name key = Json.lookup key fields := by
  cases hfound : Json.lookup name settings with
  | none =>
    refine ⟨[], rfl, fun key => ?_⟩
    unfold stored?
    rw [hfound]
    rfl
  | some value =>
    obtain ⟨fields, rfl⟩ := htables name hname value hfound
    exact ⟨fields, rfl, stored?_of_lookup hfound⟩

/-- **Setting.** So does assigning a value that could be converted. -/
theorem changes_set (htables : HasTables settings) (hcoerce : coerce name key (.text raw) = .ok value) :
    ∃ changed, assign settings name key value = .ok changed ∧ Changes (.set name key raw) settings changed := by
  obtain ⟨default, hdefault, -⟩ := coerce_eq_ok.mp hcoerce
  obtain ⟨fields, hfields, hstored⟩ := exists_table htables (mem_sectionNames_of_default hdefault)
  unfold assign
  rw [hfields]
  have hown : Json.lookup name (Json.setField name (.table (Json.setField key value fields)) settings) =
      some (.table (Json.setField key value fields)) := Json.lookup_setField ..
  have hrest : ∀ other, other ≠ name → Json.lookup other
      (Json.setField name (.table (Json.setField key value fields)) settings) =
        Json.lookup other settings := fun other hother => Json.lookup_setField_of_ne (Ne.symm hother) ..
  -- the section is a table again, and all other sections are as they were
  refine ⟨_, rfl, fun other hother found hfound => ?_, hrest, fun other asked => ?_⟩
  · by_cases h : other = name
    · subst h
      rw [hown] at hfound
      cases hfound
      exact ⟨_, rfl⟩
    · rw [hrest other h] at hfound
      exact htables other hother found hfound
  · rw [Edit.leaves]
    by_cases h : other = name
    · subst h
      rw [stored?_of_lookup hown, hstored]
      by_cases hkey : key = asked
      · subst hkey
        rw [if_pos ⟨rfl, rfl⟩, Json.lookup_setField, hcoerce]
        rfl
      · rw [if_neg fun heq => hkey heq.2, Json.lookup_setField_of_ne hkey]
        rfl
    · rw [if_neg fun heq => h heq.1.symm, stored?_congr (hrest other h)]
      rfl

/-- **A change of the settings**, if it can be made, changes what it is about and nothing else. -/
theorem changes_of_changed {edit : Edit} {changed : StoredSettings} (htables : HasTables settings)
    (h : edit.changed settings = .ok changed) : Changes edit settings changed := by
  cases edit with
  | set name key raw =>
    obtain ⟨value, hcoerce, hassign⟩ := Checked.bind_eq_ok.mp h
    obtain ⟨other, hother, hchanges⟩ := changes_set htables hcoerce
    rw [hassign, Except.ok.injEq] at hother
    exact hother ▸ hchanges
  | reset name =>
    cases h
    exact changes_reset htables name

end ChangeImpact.Settings
