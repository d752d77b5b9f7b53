import ChangeImpact.Proofs.Json.Fields
import ChangeImpact.Proofs.Json.Floats
import ChangeImpact.Proofs.Json.Texts

/-!
# Documents are read back

A value that is written on one line is read back, if it is one that reading can give: `fits` says
that its whole numbers have not too many digits, that it is not nested too deeply, that no object has
a key twice, of which one would be dropped, and that it has no other NaN than the one with a name. The
gaps behind commas and colons are skipped, whatever their length.

> `read_line`: what is written is read, as the value itself.
-/

namespace ChangeImpact.Json

/-! ## Limits -/

mutual

/-- The value has at most `room` levels, no whole number of more digits than are read, no key twice,
and of the values that are not a number only the one that is read. -/
def fits (room : Nat) : Json → Bool
  | .int n => (Nat.toDigits 10 n.natAbs).length ≤ maxDigits
  | .float x => decide (x.isNaN = true → x = .nan)
  | .arr items => 0 < room && fitsItems (room - 1) items
  | .obj fields =>
    0 < room && decide (fields.map Prod.fst).Nodup && fitsFields (room - 1) fields
  | .null | .bool _ | .str _ => true

/-- Every item of a list fits. -/
def fitsItems (room : Nat) : List Json → Bool
  | [] => true
  | item :: rest => fits room item && fitsItems room rest

/-- Every field of an object fits. -/
def fitsFields (room : Nat) : List (String × Json) → Bool
  | [] => true
  | (_, value) :: rest => fits room value && fitsFields room rest

end

/-- A list fits if there is room for it, and for its items one level deeper. -/
theorem fits_arr {room : Nat} {items : List Json} :
    fits room (.arr items) = true ↔ 0 < room ∧ fitsItems (room - 1) items = true := by
  unfold fits
  rw [Bool.and_eq_true, decide_eq_true_iff]

/-- An object fits if its names differ as well. -/
theorem fits_obj {room : Nat} {fields : List (String × Json)} :
    fits room (.obj fields) = true ↔
      0 < room ∧ (fields.map Prod.fst).Nodup ∧ fitsFields (room - 1) fields = true := by
  unfold fits
  rw [Bool.and_eq_true, Bool.and_eq_true, decide_eq_true_iff, decide_eq_true_iff, and_assoc]

/-! ## Objects -/

/-- Fields without a key twice are the fields of their object. -/
theorem ofFields_eq {fields : List (String × Json)} (h : (fields.map Prod.fst).Nodup) :
    ofFields fields = .obj fields := by
  have hfold : ∀ known : List (String × Json), ((known ++ fields).map Prod.fst).Nodup →
      fields.foldl (fun known field => setField field.1 field.2 known) known = known ++ fields := by
    induction fields with
    | nil => intro known _; exact (List.append_nil known).symm
    | cons field rest ih =>
      intro known hknown
      obtain ⟨key, value⟩ := field
      have hnot : key ∉ known.map Prod.fst := by
        rw [List.map_append, List.map_cons] at hknown
        intro hmem
        exact (List.nodup_append.mp hknown).2.2 key hmem key (List.mem_cons_self ..) rfl
      rw [List.foldl_cons]
      dsimp only
      rw [setField_of_not_mem hnot]
      rw [List.map_cons, List.nodup_cons] at h
      rw [ih h.2 (known ++ [(key, value)]) (by rwa [List.append_assoc])]
      rw [List.append_assoc]
      rfl
  exact congrArg Json.obj (hfold [] h)

/-! ## How values begin -/

/-- A character that begins a value: no blank, no closing bracket and no byte order mark. -/
def BeginsValue (cs : List Char) : Prop :=
  ∃ c rest, cs = c :: rest ∧ isGap c = false ∧ c ≠ ']' ∧ c ≠ '\ufeff'

theorem beginsValue_cons {c : Char} {rest : List Char}
    (h : isGap c = false ∧ c ≠ ']' ∧ c ≠ '\ufeff') : BeginsValue (c :: rest) :=
  ⟨c, rest, rfl, h⟩

theorem BeginsValue.append {cs : List Char} (h : BeginsValue cs) (rest : List Char) :
    BeginsValue (cs ++ rest) := by
  obtain ⟨c, cs, rfl, hc⟩ := h
  exact beginsValue_cons hc

/-- No blank stands before a value. -/
theorem BeginsValue.skipGap {cs : List Char} (h : BeginsValue cs) : skipGap cs = cs := by
  obtain ⟨c, cs, rfl, hgap, -⟩ := h
  exact List.dropWhile_cons_of_neg (by simp [hgap])

/-- A digit begins a value. -/
theorem beginsValue_digit {c : Char} {rest : List Char} (h : c.isDigit = true) :
    BeginsValue (c :: rest) := by
  refine beginsValue_cons ⟨?_, ?_, ?_⟩
  · unfold isGap
    simp only [Bool.or_eq_false_iff, beq_eq_false_iff_ne, ne_eq]
    refine ⟨⟨⟨?_, ?_⟩, ?_⟩, ?_⟩
    all_goals
      intro hc
      rw [hc] at h
      exact absurd h (by decide)
  · intro hc
    rw [hc] at h
    exact absurd h (by decide)
  · intro hc
    rw [hc] at h
    exact absurd h (by decide)

/-- So does a number, with its sign. -/
theorem beginsValue_number {whole : List Char} (h : IsWhole whole) (negative : Bool)
    (rest : List Char) : BeginsValue (sign negative ++ (whole ++ rest)) := by
  cases negative with
  | true => exact beginsValue_cons (by decide)
  | false =>
    rcases h with rfl | ⟨c, cs, rfl, -, hall⟩
    · exact beginsValue_cons (by decide)
    · exact beginsValue_digit (hall c (List.mem_cons_self ..))

/-- A number that is neither not one nor infinite is finite. -/
theorem isFinite_of_not {x : Binary64} (hnan : ¬ x.isNaN = true) (hinfinite : ¬ x.isInfinite = true) :
    x.isFinite = true := by
  unfold Binary64.isNaN at hnan
  unfold Binary64.isInfinite at hinfinite
  unfold Binary64.isFinite
  cases hfield : x.exponentField == 2047 with
  | false => simpa using hfield
  | true =>
    rw [hfield] at hnan hinfinite
    simp_all

/-- Every value begins with a character that belongs to it. -/
theorem beginsValue_line (gap : String) (v : Json) : BeginsValue (line gap v).toList := by
  -- it is the first character that counts, which each kind of value writes by itself
  cases v with
  | null =>
    show BeginsValue "null".toList
    exact beginsValue_cons (by decide)
  | bool b =>
    show BeginsValue (if b then "true" else "false").toList
    cases b <;> exact beginsValue_cons (by decide)
  | int n =>
    show BeginsValue (toString n).toList
    rw [toList_toString_int, ← List.append_nil (Nat.toDigits 10 n.natAbs)]
    exact beginsValue_number (isWhole_toDigits _) _ _
  | float x =>
    show BeginsValue (writtenFloat x).toList
    unfold writtenFloat
    split
    next => exact beginsValue_cons (by decide)
    next hnan =>
      split
      next => split <;> exact beginsValue_cons (by decide)
      next hinfinite =>
        obtain ⟨t, hproper, htext, -⟩ := exists_numberText (isFinite_of_not hnan hinfinite)
        rw [htext]
        exact beginsValue_number hproper.isWhole _ _
  | str s =>
    show BeginsValue (writtenText s).toList
    unfold writtenText
    rw [String.toList_ofList]
    exact beginsValue_cons (by decide)
  | arr items =>
    show BeginsValue ("[" ++ lineItems gap items ++ "]").toList
    rw [String.toList_append, String.toList_append]
    exact beginsValue_cons (by decide)
  | obj fields =>
    show BeginsValue ("\x7b" ++ lineFields gap fields ++ "\x7d").toList
    rw [String.toList_append, String.toList_append]
    exact beginsValue_cons (by decide)

/-! ## Values without parts -/

theorem readWord_digit {c : Char} {rest : List Char} (h : c.isDigit = true) :
    readWord? (c :: rest) = none := by
  unfold readWord?
  split
  case h_7 => rfl
  all_goals
    rename_i heq
    obtain ⟨rfl, -⟩ := List.cons_eq_cons.mp heq
    exact absurd h (by decide)

/-- What begins with the whole part of a number is read as a number. -/
theorem readValue_number {whole : List Char} (h : IsWhole whole) (negative : Bool)
    (tail : List Char) {room fuel : Nat} {found : Except Stop (Json × List Char)}
    (hread : readNumber? (sign negative ++ (whole ++ tail)) = some found) :
    readValue room (fuel + 1) (sign negative ++ (whole ++ tail)) = found := by
  obtain ⟨d, ds, hwhole, hd⟩ : ∃ d ds, whole = d :: ds ∧ d.isDigit = true := by
    rcases h with rfl | ⟨c, cs, rfl, -, hall⟩
    · exact ⟨'0', [], rfl, rfl⟩
    · exact ⟨c, cs, rfl, hall c (List.mem_cons_self ..)⟩
  have hword : readWord? (sign negative ++ (whole ++ tail)) = none := by
    rw [hwhole]
    cases negative with
    | false => exact readWord_digit hd
    | true =>
      show readWord? ('-' :: d :: (ds ++ tail)) = none
      unfold readWord?
      split
      case h_6 heq =>
        obtain ⟨rfl, -⟩ := List.cons_eq_cons.mp (List.cons_eq_cons.mp heq).2
        exact absurd hd (by decide)
      case h_7 => rfl
      all_goals
        rename_i heq
        exact absurd (List.cons_eq_cons.mp heq).1 (by decide)
  -- no other kind of value begins with a minus sign or a digit
  have hhead : ∀ c rest, sign negative ++ (whole ++ tail) = c :: rest →
      c = '-' ∨ c.isDigit = true := by
    intro c rest heq
    rw [hwhole] at heq
    cases negative with
    | true => exact Or.inl (List.cons_eq_cons.mp heq).1.symm
    | false => exact Or.inr ((List.cons_eq_cons.mp heq).1 ▸ hd)
  unfold readValue
  split
  case h_4 =>
    rw [hword, hread]
    rfl
  all_goals
    rename_i heq
    rcases hhead _ _ heq with hc | hc
    · cases hc
    · exact absurd hc (by decide)

/-- Within `room` levels, the line of the value is read as the value. -/
def ReadsBack (gap : String) (room : Nat) (v : Json) : Prop :=
  ∀ fuel rest, 2 * (line gap v).toList.length ≤ fuel → EndsValue rest →
    readValue room fuel ((line gap v).toList ++ rest) = .ok (v, rest)

/-- The items of the list are read as such, up to the closing bracket. -/
def ItemsReadBack (gap : String) (room : Nat) (items : List Json) : Prop :=
  ∀ fuel rest, 2 * (lineItems gap items).toList.length + 1 ≤ fuel →
    readItems room fuel ((lineItems gap items).toList ++ ']' :: rest) = .ok (items, rest)

/-- The fields of the object are read as such, up to the closing brace. -/
def FieldsReadBack (gap : String) (room : Nat) (fields : List (String × Json)) : Prop :=
  ∀ fuel rest, 2 * (lineFields gap fields).toList.length + 1 ≤ fuel →
    readFields room fuel ((lineFields gap fields).toList ++ '\x7d' :: rest) = .ok (fields, rest)

variable {gap : String} {room : Nat}

/-- A line is not empty, so that there is fuel for it. -/
theorem exists_fuel {v : Json} {fuel : Nat} (h : 2 * (line gap v).toList.length ≤ fuel) :
    ∃ n, fuel = n + 1 := by
  obtain ⟨c, cs, hline, -⟩ := beginsValue_line gap v
  rw [hline, List.length_cons] at h
  exact ⟨fuel - 1, by omega⟩

/-- Null reads back. -/
theorem readsBack_null : ReadsBack gap room .null := by
  intro fuel rest hfuel _
  obtain ⟨fuel, rfl⟩ := exists_fuel hfuel
  show readValue room (fuel + 1) ("null".toList ++ rest) = _
  rfl

/-- So do truth values. -/
theorem readsBack_bool (b : Bool) : ReadsBack gap room (.bool b) := by
  intro fuel rest hfuel _
  obtain ⟨fuel, rfl⟩ := exists_fuel hfuel
  show readValue room (fuel + 1) ((if b then "true" else "false").toList ++ rest) = _
  cases b <;> rfl

/-- So do whole numbers that are not too long. -/
theorem readsBack_int {n : Int} (h : fits room (.int n) = true) : ReadsBack gap room (.int n) := by
  intro fuel rest hfuel hrest
  obtain ⟨fuel, rfl⟩ := exists_fuel hfuel
  have hread := readNumber_int (of_decide_eq_true h) hrest
  show readValue room (fuel + 1) ((toString n).toList ++ rest) = _
  rw [toList_toString_int, List.append_assoc] at hread ⊢
  exact readValue_number (isWhole_toDigits _) _ _ hread

/-- An infinity has no bits but its sign and its exponent. -/
theorem infinity_isNegative {x : Binary64} (h : x.isInfinite = true) :
    Binary64.infinity x.isNegative = x := by
  unfold Binary64.isInfinite at h
  rw [Bool.and_eq_true, beq_iff_eq, beq_iff_eq] at h
  have hself := Decimal.ofFields_fields x
  rw [h.1, h.2] at hself
  exact hself

/-- So do numbers in binary64, each by its shortest digits. -/
theorem readsBack_float {x : Binary64} (h : fits room (.float x) = true) :
    ReadsBack gap room (.float x) := by
  intro fuel rest hfuel hrest
  obtain ⟨fuel, rfl⟩ := exists_fuel hfuel
  show readValue room (fuel + 1) ((writtenFloat x).toList ++ rest) = _
  unfold writtenFloat
  by_cases hnan : x.isNaN = true
  · have hx : x = .nan := of_decide_eq_true h hnan
    rw [if_pos hnan, hx]
    rfl
  · by_cases hinfinite : x.isInfinite = true
    · rw [if_neg hnan, if_pos hinfinite, ← infinity_isNegative hinfinite]
      cases x.isNegative <;> rfl
    · have hfinite := isFinite_of_not hnan hinfinite
      obtain ⟨t, hproper, htext, -⟩ := exists_numberText hfinite
      have hread := readNumber_text hfinite hrest
      rw [if_neg hnan, if_neg hinfinite]
      rw [htext, List.append_assoc] at hread ⊢
      unfold NumberText.chars at hread ⊢
      rw [List.append_assoc] at hread ⊢
      exact readValue_number hproper.isWhole _ _ hread

/-- A quoted text is read up to its closing quote. -/
theorem toList_writtenText (s : String) (rest : List Char) :
    (writtenText s).toList ++ rest = '"' :: (s.toList.flatMap escapedChar ++ '"' :: rest) := by
  unfold writtenText
  rw [String.toList_ofList]
  simp

/-- A quoted text is read back whatever stands behind it. -/
theorem readValue_writtenText (s : String) (fuel : Nat) (rest : List Char) :
    readValue room (fuel + 1) ((writtenText s).toList ++ rest) = .ok (.str s, rest) := by
  rw [toList_writtenText]
  show (readText _ 0 (s.toList.flatMap escapedChar ++ '"' :: rest)).map _ = _
  rw [readText_written]
  show Except.ok (Json.str (String.ofList s.toList), rest) = _
  rw [String.ofList_toList]

/-- So do texts, escape by escape. -/
theorem readsBack_str (s : String) : ReadsBack gap room (.str s) := by
  intro fuel rest hfuel _
  obtain ⟨fuel, rfl⟩ := exists_fuel hfuel
  exact readValue_writtenText s fuel rest

/-! ## Lists -/

/-- The line of a list is that of its items in brackets. -/
theorem toList_line_arr (gap : String) (items : List Json) (rest : List Char) :
    (line gap (.arr items)).toList ++ rest = '[' :: ((lineItems gap items).toList ++ ']' :: rest) := by
  show ("[" ++ lineItems gap items ++ "]").toList ++ rest = _
  rw [String.toList_append, String.toList_append]
  simp

/-- Where the first item of a list begins its items begin. -/
theorem beginsValue_lineItems (gap : String) (item : Json) (items : List Json) :
    BeginsValue (lineItems gap (item :: items)).toList := by
  cases items with
  | nil => exact beginsValue_line gap item
  | cons next items =>
    show BeginsValue (line gap item ++ "," ++ gap ++ lineItems gap (next :: items)).toList
    rw [String.append_assoc, String.append_assoc, String.toList_append]
    exact (beginsValue_line gap item).append _

/-- The empty list reads back. -/
theorem readsBack_arr_nil (h : 0 < room) : ReadsBack gap room (.arr []) := by
  intro fuel rest hfuel _
  obtain ⟨fuel, rfl⟩ := exists_fuel hfuel
  show readValue room (fuel + 1) (("[" ++ "" ++ "]").toList ++ rest) = _
  show (if room = 0 then _ else _) = _
  rw [if_neg (by omega)]
  rfl

/-- A list reads back if its items do with one level less room. -/
theorem readsBack_arr (h : 0 < room) {item : Json} {items : List Json}
    (hitems : ItemsReadBack gap (room - 1) (item :: items)) : ReadsBack gap room (.arr (item :: items)) := by
  intro fuel rest hfuel _
  obtain ⟨fuel, rfl⟩ := exists_fuel hfuel
  have hlength : 2 * (lineItems gap (item :: items)).toList.length + 1 ≤ fuel := by
    have := congrArg List.length (toList_line_arr gap (item :: items) [])
    simp only [List.append_nil, List.length_cons, List.length_append, List.length_nil] at this
    omega
  rw [toList_line_arr]
  have hbegins := (beginsValue_lineItems gap item items).append (']' :: rest)
  have hread := hitems fuel rest hlength
  rw [readValue, if_neg (by omega), hbegins.skipGap]
  obtain ⟨c, cs, hcs, -, hclose, -⟩ := hbegins
  rw [hcs] at hread ⊢
  split
  next heq => exact absurd (List.cons_eq_cons.mp heq).1 hclose
  next =>
    rw [hread]
    rfl

/-- A comma and the closing bracket and brace end a value. -/
theorem endsValue_cons {c : Char} {rest : List Char} (h : c = ',' ∨ c = ']' ∨ c = '\x7d') :
    EndsValue (c :: rest) := h

/-- A single item reads back. -/
theorem itemsReadBack_singleton {item : Json} (h : ReadsBack gap room item) :
    ItemsReadBack gap room [item] := by
  intro fuel rest hfuel
  have hfuel : 2 * (line gap item).toList.length + 1 ≤ fuel := hfuel
  obtain ⟨fuel, rfl⟩ : ∃ n, fuel = n + 1 := ⟨fuel - 1, by omega⟩
  show readItems room (fuel + 1) ((line gap item).toList ++ ']' :: rest) = _
  rw [readItems, h fuel (']' :: rest) (by omega) (endsValue_cons (by decide))]
  rfl

section

variable (hgap : ∀ c ∈ gap.toList, isGap c = true)

include hgap

/-- The gap behind a comma is skipped. -/
theorem skipGap_append (cs : List Char) : skipGap (gap.toList ++ cs) = skipGap cs :=
  List.dropWhile_append_of_pos hgap

/-- An item in front of others reads back if they do. -/
theorem itemsReadBack_cons {item next : Json} {items : List Json} (h : ReadsBack gap room item)
    (hitems : ItemsReadBack gap room (next :: items)) :
    ItemsReadBack gap room (item :: next :: items) := by
  intro fuel rest hfuel
  have hchars : ∀ rest, (lineItems gap (item :: next :: items)).toList ++ rest =
      (line gap item).toList ++
        ',' :: (gap.toList ++ ((lineItems gap (next :: items)).toList ++ rest)) := by
    intro rest
    show (line gap item ++ "," ++ gap ++ lineItems gap (next :: items)).toList ++ rest = _
    rw [String.toList_append, String.toList_append, String.toList_append]
    simp
  have hlength := congrArg List.length (hchars [])
  simp only [List.append_nil, List.length_cons, List.length_append] at hlength
  obtain ⟨fuel, rfl⟩ : ∃ n, fuel = n + 1 := ⟨fuel - 1, by omega⟩
  rw [hchars, readItems, h fuel _ (by omega) (endsValue_cons (by decide))]
  show (readItems room fuel (skipGap (gap.toList ++
    ((lineItems gap (next :: items)).toList ++ ']' :: rest)))).map _ = _
  rw [skipGap_append hgap, ((beginsValue_lineItems gap next items).append _).skipGap,
    hitems fuel rest (by omega)]
  rfl

end

/-! ## Objects -/

/-- The line of an object is that of its fields in braces. -/
theorem toList_line_obj (gap : String) (fields : List (String × Json)) (rest : List Char) :
    (line gap (.obj fields)).toList ++ rest =
      '\x7b' :: ((lineFields gap fields).toList ++ '\x7d' :: rest) := by
  show ("\x7b" ++ lineFields gap fields ++ "\x7d").toList ++ rest = _
  rw [String.toList_append, String.toList_append]
  simp

/-- The empty object reads back. -/
theorem readsBack_obj_nil (h : 0 < room) : ReadsBack gap room (.obj []) := by
  intro fuel rest hfuel _
  obtain ⟨fuel, rfl⟩ := exists_fuel hfuel
  show readValue room (fuel + 1) (("\x7b" ++ "" ++ "\x7d").toList ++ rest) = _
  show (if room = 0 then _ else _) = _
  rw [if_neg (by omega)]
  rfl

/-- A field is written as its name, a colon and the line of its value. -/
theorem toList_field (gap key : String) (value : Json) (rest : List Char) :
    (writtenText key ++ ":" ++ gap ++ line gap value).toList ++ rest =
      '"' :: (key.toList.flatMap escapedChar ++
        '"' :: ':' :: (gap.toList ++ ((line gap value).toList ++ rest))) := by
  rw [String.toList_append, String.toList_append, String.toList_append, List.append_assoc,
    List.append_assoc, List.append_assoc, toList_writtenText]
  rfl

/-- In front of other fields a comma follows. -/
theorem toList_fields (gap key : String) (value : Json) (next : String × Json)
    (fields : List (String × Json)) (rest : List Char) :
    (lineFields gap ((key, value) :: next :: fields)).toList ++ rest =
      '"' :: (key.toList.flatMap escapedChar ++ '"' :: ':' :: (gap.toList ++ ((line gap value).toList ++
        ',' :: (gap.toList ++ ((lineFields gap (next :: fields)).toList ++ rest))))) := by
  rw [← toList_field]
  show (writtenText key ++ ":" ++ gap ++ line gap value ++ "," ++ gap ++
    lineFields gap (next :: fields)).toList ++ rest = _
  rw [String.toList_append, String.toList_append, String.toList_append (s := _ ++ line gap value),
    List.append_assoc, List.append_assoc, List.append_assoc]
  rfl

/-- Fields begin with the quote of a name. -/
theorem exists_lineFields_eq (field : String × Json) (fields : List (String × Json)) :
    ∃ cs, (lineFields gap (field :: fields)).toList = '"' :: cs := by
  obtain ⟨key, value⟩ := field
  rw [← List.append_nil (lineFields gap _).toList]
  cases fields with
  | nil => exact ⟨_, toList_field gap key value []⟩
  | cons next fields => exact ⟨_, toList_fields gap key value next fields []⟩

/-- Fields begin with a quotation mark. -/
theorem beginsValue_lineFields (gap : String) (field : String × Json) (fields : List (String × Json)) :
    BeginsValue (lineFields gap (field :: fields)).toList := by
  obtain ⟨cs, hcs⟩ := exists_lineFields_eq field fields
  rw [hcs]
  exact beginsValue_cons (by decide)

section

variable (hgap : ∀ c ∈ gap.toList, isGap c = true)

include hgap

/-- A field and its value are read up to what stands behind them, here a closing brace. -/
theorem readFields_last {value : Json} (h : ReadsBack gap room value) (key : String)
    {fuel : Nat} (hfuel : 2 * (line gap value).toList.length ≤ fuel) (rest : List Char) :
    readFields room (fuel + 1) ('"' :: (key.toList.flatMap escapedChar ++
        '"' :: ':' :: (gap.toList ++ ((line gap value).toList ++ '\x7d' :: rest)))) =
      .ok ([(key, value)], rest) := by
  have hcolon : ∀ cs, skipGap (':' :: cs) = ':' :: cs := fun _ => rfl
  have hbrace : skipGap ('\x7d' :: rest) = '\x7d' :: rest := rfl
  have hvalue := h fuel ('\x7d' :: rest) hfuel (endsValue_cons (by decide))
  simp only [readFields, readText_written, hcolon, skipGap_append hgap,
    ((beginsValue_line gap value).append _).skipGap, hvalue, hbrace, String.ofList_toList]

/-- Behind a field and its value may stand a comma and further fields. -/
theorem readFields_more {value : Json} (h : ReadsBack gap room value) (key : String)
    {fuel : Nat} (hfuel : 2 * (line gap value).toList.length ≤ fuel) (tail : List Char) :
    readFields room (fuel + 1) ('"' :: (key.toList.flatMap escapedChar ++
        '"' :: ':' :: (gap.toList ++ ((line gap value).toList ++ ',' :: tail)))) =
      (readFields room fuel (skipGap tail)).map fun found =>
        ((key, value) :: found.1, found.2) := by
  have hcolon : ∀ cs, skipGap (':' :: cs) = ':' :: cs := fun _ => rfl
  have hcomma : skipGap (',' :: tail) = ',' :: tail := rfl
  have hvalue := h fuel (',' :: tail) hfuel (endsValue_cons (by decide))
  simp only [readFields, readText_written, hcolon, skipGap_append hgap,
    ((beginsValue_line gap value).append _).skipGap, hvalue, hcomma, String.ofList_toList]

/-- A single field reads back. -/
theorem fieldsReadBack_singleton {value : Json} (h : ReadsBack gap room value) (key : String) :
    FieldsReadBack gap room [(key, value)] := by
  intro fuel rest hfuel
  have hchars : (lineFields gap [(key, value)]).toList ++ '\x7d' :: rest = _ :=
    toList_field gap key value ('\x7d' :: rest)
  have hlength := congrArg List.length hchars
  simp only [List.length_cons, List.length_append] at hlength
  obtain ⟨fuel, rfl⟩ : ∃ n, fuel = n + 1 := ⟨fuel - 1, by omega⟩
  rw [hchars, readFields_last hgap h key (by omega)]

/-- A field in front of others reads back if they do. -/
theorem fieldsReadBack_cons {value : Json} (h : ReadsBack gap room value) (key : String)
    {next : String × Json} {fields : List (String × Json)}
    (hfields : FieldsReadBack gap room (next :: fields)) :
    FieldsReadBack gap room ((key, value) :: next :: fields) := by
  intro fuel rest hfuel
  have hlength := congrArg List.length (toList_fields gap key value next fields [])
  simp only [List.append_nil, List.length_cons, List.length_append] at hlength
  obtain ⟨fuel, rfl⟩ : ∃ n, fuel = n + 1 := ⟨fuel - 1, by omega⟩
  rw [toList_fields, readFields_more hgap h key (by omega), skipGap_append hgap,
    ((beginsValue_lineFields gap next fields).append _).skipGap, hfields fuel rest (by omega)]
  rfl

end

/-- An object reads back if its fields do and no two have one name. -/
theorem readsBack_obj (h : 0 < room) {field : String × Json} {fields : List (String × Json)}
    (hnames : ((field :: fields).map Prod.fst).Nodup)
    (hfields : FieldsReadBack gap (room - 1) (field :: fields)) :
    ReadsBack gap room (.obj (field :: fields)) := by
  intro fuel rest hfuel _
  obtain ⟨fuel, rfl⟩ := exists_fuel hfuel
  have hlength : 2 * (lineFields gap (field :: fields)).toList.length + 1 ≤ fuel := by
    have := congrArg List.length (toList_line_obj gap (field :: fields) [])
    simp only [List.append_nil, List.length_cons, List.length_append, List.length_nil] at this
    omega
  rw [toList_line_obj]
  have hread := hfields fuel rest hlength
  have hbegins := (beginsValue_lineFields gap field fields).append ('\x7d' :: rest)
  rw [readValue, if_neg (by omega), hbegins.skipGap]
  split
  next heq =>
    obtain ⟨cs, hcs⟩ := exists_lineFields_eq field fields
    rw [hcs] at heq
    exact absurd (List.cons_eq_cons.mp heq).1 (by decide)
  next =>
    rw [hread]
    show Except.ok (ofFields (field :: fields), rest) = _
    rw [ofFields_eq hnames]

/-! ## All values -/

mutual

/-- A value that fits is read back. -/
theorem readsBack (hgap : ∀ c ∈ gap.toList, isGap c = true) :
    ∀ (v : Json) (room : Nat), fits room v = true → ReadsBack gap room v
  | .null, _, _ => readsBack_null
  | .bool b, _, _ => readsBack_bool b
  | .int _, _, h => readsBack_int h
  | .float _, _, h => readsBack_float h
  | .str s, _, _ => readsBack_str s
  | .arr [], _, h => readsBack_arr_nil (fits_arr.mp h).1
  | .arr (item :: items), room, h => by
    obtain ⟨hroom, hfits⟩ := fits_arr.mp h
    exact readsBack_arr hroom
      (itemsReadBack hgap (item :: items) (room - 1) (List.cons_ne_nil _ _) hfits)
  | .obj [], _, h => readsBack_obj_nil (fits_obj.mp h).1
  | .obj (field :: fields), room, h => by
    obtain ⟨hroom, hnames, hfits⟩ := fits_obj.mp h
    exact readsBack_obj hroom hnames
      (fieldsReadBack hgap (field :: fields) (room - 1) (List.cons_ne_nil _ _) hfits)

/-- The items of a list are read back, if they fit. -/
theorem itemsReadBack (hgap : ∀ c ∈ gap.toList, isGap c = true) :
    ∀ (items : List Json) (room : Nat), items ≠ [] → fitsItems room items = true →
      ItemsReadBack gap room items
  | [], _, hne, _ => absurd rfl hne
  | [item], room, _, h =>
    itemsReadBack_singleton (readsBack hgap item room (Bool.and_eq_true_iff.mp h).1)
  | item :: next :: items, room, _, h => by
    obtain ⟨hitem, hitems⟩ := Bool.and_eq_true_iff.mp h
    exact itemsReadBack_cons hgap (readsBack hgap item room hitem)
      (itemsReadBack hgap (next :: items) room (List.cons_ne_nil _ _) hitems)

/-- The fields of an object are read back, if they fit. -/
theorem fieldsReadBack (hgap : ∀ c ∈ gap.toList, isGap c = true) :
    ∀ (fields : List (String × Json)) (room : Nat), fields ≠ [] → fitsFields room fields = true →
      FieldsReadBack gap room fields
  | [], _, hne, _ => absurd rfl hne
  | [(key, value)], room, _, h =>
    fieldsReadBack_singleton hgap (readsBack hgap value room (Bool.and_eq_true_iff.mp h).1) key
  | (key, value) :: next :: fields, room, _, h => by
    obtain ⟨hvalue, hfields⟩ := Bool.and_eq_true_iff.mp h
    exact fieldsReadBack_cons hgap (readsBack hgap value room hvalue) key
      (fieldsReadBack hgap (next :: fields) room (List.cons_ne_nil _ _) hfields)

end

/-- **What is written on one line is read back.** -/
theorem read_line (hgap : ∀ c ∈ gap.toList, isGap c = true) {v : Json}
    (h : fits maxNesting v = true) : read (line gap v) = .ok v := by
  have hbegins := beginsValue_line gap v
  have hvalue := readsBack hgap v maxNesting h (2 * (line gap v).toList.length + 2) [] (by omega)
    trivial
  rw [List.append_nil] at hvalue
  unfold read readChars
  split
  next heq =>
    obtain ⟨c, cs, hcs, -, -, hmark⟩ := hbegins
    rw [hcs] at heq
    exact absurd (List.cons_eq_cons.mp heq).1 hmark
  next =>
    rw [hbegins.skipGap, hvalue]
    rfl

/-- What is written with blanks behind commas and colons reads back. -/
theorem read_spaced {v : Json} (h : fits maxNesting v = true) : read (spaced v) = .ok v :=
  read_line (List.all_eq_true.mp rfl) h

end ChangeImpact.Json
