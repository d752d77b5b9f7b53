import Mathlib.Data.List.TakeWhile
import ChangeImpact.Proofs.Json.Lines

/-!
# What is read stays within the limits

Whole numbers of too many digits and lists and objects that are nested too deeply end the reading,
of several fields with one key one is kept, and only one name is read as what is not a number:

> `fits_of_read`: a value that was read from a text is within the limits.

Together with `read_line` this says that whatever was read can be written and is read as the same
value again.
-/

namespace ChangeImpact.Json

variable {room fuel : Nat} {cs rest : List Char}

/-! ## Numbers -/

/-- The digits of a whole number that is read are at most as many as were written. -/
theorem length_toDigits_natOf {digits : List Char} (h : ∀ c ∈ digits, c.isDigit = true)
    (hsome : 0 < digits.length) : (Nat.toDigits 10 (natOf digits)).length ≤ digits.length := by
  rw [Nat.length_toDigits_le_iff (by decide) hsome]
  unfold natOf
  have hvalues : ∀ d ∈ digits.map fun c => c.toNat - '0'.toNat, d < 10 := by
    intro d hd
    obtain ⟨c, hc, rfl⟩ := List.mem_map.mp hd
    have hdigit := h c hc
    rw [Char.isDigit_iff_toNat] at hdigit
    have h48 : '0'.toNat = 48 := rfl
    have h57 : '9'.toNat = 57 := rfl
    omega
  have := Decimal.digitsValue_lt hvalues
  rwa [List.length_map] at this

/-- What is read before the point are digits, at least one. -/
theorem isDigit_of_wholeOf {digits : List Char} (h : wholeOf? cs = some (digits, rest)) :
    (∀ c ∈ digits, c.isDigit = true) ∧ 0 < digits.length := by
  unfold wholeOf? at h
  split at h
  next =>
    cases h
    exact ⟨List.forall_mem_singleton.mpr rfl, Nat.zero_lt_one⟩
  next c cs _ =>
    split at h
    next hdigit =>
      unfold digitSpan at h
      rw [List.span_eq_takeWhile_dropWhile] at h
      cases h
      refine ⟨fun d hd => List.mem_takeWhile_imp hd, ?_⟩
      rw [List.takeWhile_cons_of_pos hdigit]
      exact Nat.succ_pos _
    next => cases h
  next => cases h

/-- A number that is read is within the limits. -/
theorem fits_of_readNumber {v : Json} (h : readNumber? cs = some (.ok (v, rest))) :
    v.fits room = true := by
  unfold readNumber? at h
  obtain ⟨⟨digits, tail⟩, hwhole, hnumber⟩ := Option.map_eq_some_iff.mp h
  obtain ⟨hdigits, hsome⟩ := isDigit_of_wholeOf hwhole
  unfold numberOf wholeNumber at hnumber
  dsimp only at hnumber
  split at hnumber
  next =>
    split at hnumber
    next => cases hnumber
    next hfew =>
      cases hnumber
      -- zeros in front aside, the number has the digits that were counted
      have hlength := length_toDigits_natOf hdigits hsome
      unfold fits
      rw [decide_eq_true_iff]
      split
      next => rw [Int.natAbs_neg, Int.natAbs_natCast]; omega
      next => rw [Int.natAbs_natCast]; omega
  next =>
    cases hnumber
    unfold fits
    rw [Decimal.isNaN_ofDecimal]
    rfl

/-- A name stands for a value without limits. -/
theorem fits_of_readWord {v : Json} (h : readWord? cs = some (v, rest)) : v.fits room = true := by
  unfold readWord? at h
  split at h <;> cases h <;> rfl

/-! ## Objects -/

/-- Fields fit if one that fits is set among them. -/
theorem fitsFields_setField {key : String} {value : Json} (hvalue : value.fits room = true)
    {fields : List (String × Json)} (h : fitsFields room fields = true) :
    fitsFields room (setField key value fields) = true := by
  induction fields with
  | nil =>
    unfold setField fitsFields
    rw [hvalue]
    rfl
  | cons field fields ih =>
    obtain ⟨k, v⟩ := field
    obtain ⟨hv, hrest⟩ := Bool.and_eq_true_iff.mp h
    unfold setField
    split
    next => exact Bool.and_eq_true_iff.mpr ⟨hvalue, hrest⟩
    next => exact Bool.and_eq_true_iff.mpr ⟨hv, ih hrest⟩

/-- Of several fields with one key the last value is kept, which is one of them. -/
theorem fits_ofFields {fields : List (String × Json)} (hroom : 0 < room)
    (h : fitsFields (room - 1) fields = true) : (ofFields fields).fits room = true := by
  have hfold : ∀ known : List (String × Json), (known.map Prod.fst).Nodup →
      fitsFields (room - 1) known = true →
        ((fields.foldl (fun known field => setField field.1 field.2 known) known).map
          Prod.fst).Nodup ∧
        fitsFields (room - 1)
          (fields.foldl (fun known field => setField field.1 field.2 known) known) = true := by
    induction fields with
    | nil => exact fun known hnames hknown => ⟨hnames, hknown⟩
    | cons field fields ih =>
      intro known hnames hknown
      obtain ⟨hvalue, hrest⟩ := Bool.and_eq_true_iff.mp h
      exact ih hrest _ (nodup_setField _ _ hnames) (fitsFields_setField hvalue hknown)
  exact fits_obj.mpr ⟨hroom, hfold [] List.nodup_nil rfl⟩

/-! ## All values -/

theorem map_eq_ok {α β : Type} {x : Except Stop α} {f : α → β} {b : β} :
    x.map f = .ok b ↔ ∃ a, x = .ok a ∧ f a = b := by
  cases x <;> simp [Except.map]

/-- Whatever the readers read with so much fuel is within the limits. -/
structure Bounded (fuel : Nat) : Prop where
  value : ∀ {room cs v rest}, readValue room fuel cs = .ok (v, rest) → v.fits room = true
  items : ∀ {room cs items rest}, readItems room fuel cs = .ok (items, rest) →
    fitsItems room items = true
  fields : ∀ {room cs fields rest}, readFields room fuel cs = .ok (fields, rest) →
    fitsFields room fields = true

namespace Bounded

/-- A value that was read fits if what is read in one step less does. -/
theorem value_succ (h : Bounded fuel) {v : Json}
    (hread : readValue room (fuel + 1) cs = .ok (v, rest)) : v.fits room = true := by
  unfold readValue at hread
  dsimp only at hread
  -- the first character decides: a text, an object, a list, or else a word or a number
  split at hread
  next =>
    obtain ⟨_, -, heq⟩ := map_eq_ok.mp hread
    cases heq
    rfl
  next =>
    split at hread
    next => cases hread
    next hroom =>
      have hroom : 0 < room := Nat.pos_of_ne_zero hroom
      split at hread
      next =>
        cases hread
        exact fits_obj.mpr ⟨hroom, List.nodup_nil, rfl⟩
      next =>
        obtain ⟨⟨fields, tail⟩, hfields, heq⟩ := map_eq_ok.mp hread
        cases heq
        exact fits_ofFields hroom (h.fields hfields)
  next =>
    split at hread
    next => cases hread
    next hroom =>
      have hroom : 0 < room := Nat.pos_of_ne_zero hroom
      split at hread
      next =>
        cases hread
        exact fits_arr.mpr ⟨hroom, rfl⟩
      next =>
        obtain ⟨⟨items, tail⟩, hitems, heq⟩ := map_eq_ok.mp hread
        cases heq
        exact fits_arr.mpr ⟨hroom, h.items hitems⟩
  next =>
    split at hread
    next hword =>
      cases hread
      exact fits_of_readWord hword
    next =>
      cases hnumber : readNumber? cs with
      | none =>
        rw [hnumber] at hread
        cases hread
      | some number =>
        rw [hnumber, Option.getD_some] at hread
        exact fits_of_readNumber (hnumber.trans (congrArg some hread))

/-- So do the items of a list. -/
theorem items_succ (h : Bounded fuel) {items : List Json}
    (hread : readItems room (fuel + 1) cs = .ok (items, rest)) : fitsItems room items = true := by
  unfold readItems at hread
  split at hread
  next => cases hread
  next item tail hitem =>
    have hfits := h.value hitem
    split at hread
    next =>
      cases hread
      exact Bool.and_eq_true_iff.mpr ⟨hfits, rfl⟩
    next =>
      obtain ⟨⟨items, tail⟩, hitems, heq⟩ := map_eq_ok.mp hread
      cases heq
      exact Bool.and_eq_true_iff.mpr ⟨hfits, h.items hitems⟩
    next => cases hread

/-- So do the fields of an object. -/
theorem fields_succ (h : Bounded fuel) {fields : List (String × Json)}
    (hread : readFields room (fuel + 1) cs = .ok (fields, rest)) :
    fitsFields room fields = true := by
  unfold readFields at hread
  split at hread
  next =>
    split at hread
    next => cases hread
    next =>
      split at hread
      next =>
        split at hread
        next => cases hread
        next value tail hvalue =>
          -- the value is read with the room of its object, the fields behind it as well
          have hfits := h.value hvalue
          split at hread
          next =>
            cases hread
            exact Bool.and_eq_true_iff.mpr ⟨hfits, rfl⟩
          next =>
            obtain ⟨⟨fields, tail⟩, hfields, heq⟩ := map_eq_ok.mp hread
            cases heq
            exact Bool.and_eq_true_iff.mpr ⟨hfits, h.fields hfields⟩
          next => cases hread
      next => cases hread
  next => cases hread

end Bounded

/-- Every value that a reader gives was put together from values read with less fuel. -/
theorem bounded (fuel : Nat) : Bounded fuel := by
  induction fuel with
  | zero =>
    refine ⟨?_, ?_, ?_⟩
    all_goals
      intro room cs _ rest hread
      cases hread
  | succ fuel ih => exact ⟨ih.value_succ, ih.items_succ, ih.fields_succ⟩

/-- **What is read is within the limits.** -/
theorem fits_of_read {text : String} {v : Json} (h : read text = .ok v) :
    v.fits maxNesting = true := by
  unfold read readChars at h
  split at h
  next => cases h
  next =>
    split at h
    next => cases h
    next value rest hvalue =>
      split at h
      next =>
        cases h
        exact (bounded _).value hvalue
      next => cases h

end ChangeImpact.Json
