import ChangeImpact.Json.Reader
import ChangeImpact.Json.Writer

/-!
# Texts are read back

A text is written in ASCII: a character outside it becomes one escaped UTF-16 unit, or two where it
takes a pair of them. Reading puts every escape back into the character that it stands for.

> `readText_written`: reading a written text gives the text, and what stands behind it.

A pair is only recognised if the text goes on behind it, so that a character is read back in front
of something, which the closing quote always is. No character is half of a pair, so no two
characters that are written one after the other are read as one.
-/

namespace ChangeImpact.Json

/-! ## Hexadecimal digits -/

theorem hexValue_hexDigit : ∀ d, d < 16 → hexValue? (Text.hexDigit d) = some d := by decide

theorem hexDigits_four (n : Nat) : Text.hexDigits 4 n =
    [Text.hexDigit (n / 16 / 16 / 16 % 16), Text.hexDigit (n / 16 / 16 % 16),
      Text.hexDigit (n / 16 % 16), Text.hexDigit (n % 16)] := rfl

/-- Four digits are read as the unit that they write. -/
theorem unit_hexDigits {n : Nat} (h : n < 0x10000) (rest : List Char) :
    unit? (Text.hexDigits 4 n ++ rest) = some n := by
  rw [hexDigits_four]
  unfold unit?
  simp only [List.cons_append, List.nil_append, hexValue_hexDigit _ (Nat.mod_lt _ (by decide)),
    Option.bind_eq_bind, Option.bind_some, Option.pure_def, Option.some.injEq]
  omega

/-! ## Escapes -/

variable {opening tail : List Char}

/-- Passing over characters leaves what stands behind them. -/
theorem readText_skip (passed cs : List Char) :
    readText opening passed.length (passed ++ cs) = readText opening 0 cs := by
  induction passed with
  | nil => rfl
  | cons c passed ih => exact ih

/-- What an escape stands for is read in its place. -/
theorem readText_escape (passed : List Char) {c : Char}
    (h : escapeAt opening (passed ++ tail) = .ok (c, passed.length)) :
    readText opening 0 ('\\' :: (passed ++ tail)) =
      (readText opening 0 tail).map fun (text, rest) => (c :: text, rest) := by
  have hslash : ('\\' == '"') = false := rfl
  rw [readText, hslash, if_neg Bool.false_ne_true, if_pos BEq.rfl, h, ← readText_skip passed tail]

/-- An escaped unit that is no half of a pair stands for its character. -/
theorem escapeAt_unit {n : Nat} (h : n < 0x10000) (hpair : ¬ (0xd800 ≤ n ∧ n < 0xdc00))
    (htail : tail ≠ []) :
    escapeAt opening ('u' :: Text.hexDigits 4 n ++ tail) = .ok (Char.ofNat n, 5) := by
  have hrest : (Text.hexDigits 4 n ++ tail).drop 4 = tail := rfl
  rw [List.cons_append, escapeAt, hrest, if_neg (by simpa using htail), unit_hexDigits h]
  dsimp only
  rw [if_neg (by simpa using hpair)]

/-- The second unit of a pair is recognised if something stands behind it. -/
theorem lowUnit_unitEscape {low : Nat} (hlow : 0xdc00 ≤ low ∧ low < 0xe000) (htail : tail ≠ []) :
    lowUnit? (unitEscape low ++ tail) = some low := by
  have hrest : (Text.hexDigits 4 low ++ tail).drop 4 = tail := rfl
  unfold unitEscape
  rw [List.cons_append, List.cons_append, lowUnit?, hrest, if_neg (by simpa using htail),
    unit_hexDigits (by omega)]
  dsimp only
  rw [if_pos (by simpa using hlow)]

/-- Two escaped units that are a pair stand for the character that they make up. -/
theorem escapeAt_pair {high low : Nat} (hhigh : 0xd800 ≤ high ∧ high < 0xdc00)
    (hlow : 0xdc00 ≤ low ∧ low < 0xe000) (htail : tail ≠ []) :
    escapeAt opening ('u' :: Text.hexDigits 4 high ++ (unitEscape low ++ tail)) =
      .ok (Char.ofNat (0x10000 + (high - 0xd800) * 0x400 + (low - 0xdc00)), 11) := by
  have hrest : (Text.hexDigits 4 high ++ (unitEscape low ++ tail)).drop 4 =
    unitEscape low ++ tail := rfl
  rw [List.cons_append, escapeAt, hrest, if_neg (by simp [unitEscape]), unit_hexDigits (by omega)]
  dsimp only
  rw [if_pos (by simpa using hhigh), lowUnit_unitEscape hlow htail]

/-! ## Characters and texts -/

/-- A character beyond the printable ASCII ones is read back from its escaped units. -/
theorem readText_units {c : Char} (htail : tail ≠ []) :
    readText opening 0 ((if c.toNat < 0x10000 then unitEscape c.toNat
        else unitEscape (0xd800 + (c.toNat - 0x10000) / 0x400) ++
          unitEscape (0xdc00 + (c.toNat - 0x10000) % 0x400)) ++ tail) =
      (readText opening 0 tail).map fun (text, rest) => (c :: text, rest) := by
  have hvalid : c.toNat < 0xd800 ∨ (0xdfff < c.toNat ∧ c.toNat < 0x110000) := c.valid
  split
  next hshort =>
    refine readText_escape ('u' :: Text.hexDigits 4 c.toNat) ?_
    rw [escapeAt_unit hshort (by omega) htail, Char.ofNat_toNat]
    rfl
  next hlong =>
    refine readText_escape ('u' :: Text.hexDigits 4 (0xd800 + (c.toNat - 0x10000) / 0x400) ++
      unitEscape (0xdc00 + (c.toNat - 0x10000) % 0x400)) ?_
    rw [List.append_assoc, escapeAt_pair (by omega) (by omega) htail]
    have hvalue : 0x10000 + (0xd800 + (c.toNat - 0x10000) / 0x400 - 0xd800) * 0x400 +
        (0xdc00 + (c.toNat - 0x10000) % 0x400 - 0xdc00) = c.toNat := by omega
    rw [hvalue, Char.ofNat_toNat]
    rfl

/-- Every character is read back, in front of something. -/
theorem readText_escapedChar (c : Char) (htail : tail ≠ []) :
    readText opening 0 (escapedChar c ++ tail) =
      (readText opening 0 tail).map fun (text, rest) => (c :: text, rest) := by
  unfold escapedChar
  dsimp only
  split
  next h => rw [eq_of_beq h]; exact readText_escape [_] rfl
  next hquote =>
  split
  next h => rw [eq_of_beq h]; exact readText_escape [_] rfl
  next hslash =>
  split
  next h => rw [eq_of_beq h]; exact readText_escape [_] rfl
  split
  next h => rw [eq_of_beq h]; exact readText_escape [_] rfl
  split
  next h => rw [eq_of_beq h]; exact readText_escape [_] rfl
  split
  next h =>
    have hc : c = '\x0c' := by rw [← Char.ofNat_toNat c, eq_of_beq h]
    rw [hc]
    exact readText_escape [_] rfl
  split
  next h =>
    have hc : c = '\x08' := by rw [← Char.ofNat_toNat c, eq_of_beq h]
    rw [hc]
    exact readText_escape [_] rfl
  split
  next hplain =>
    -- a plain character is none of the three that end the text, escape or are refused
    have hcontrol : ¬ c.toNat < 0x20 := by simp at hplain; omega
    show (if (c == '"') = true then _ else if (c == '\\') = true then _ else _) = _
    rw [if_neg hquote, if_neg hslash, if_neg hcontrol]
    rfl
  next => exact readText_units htail

/-- A written text is read back up to its closing quote. -/
theorem readText_written (opening : List Char) (cs rest : List Char) :
    readText opening 0 (cs.flatMap escapedChar ++ '"' :: rest) = .ok (cs, rest) := by
  induction cs with
  | nil => rfl
  | cons c cs ih =>
    rw [List.flatMap_cons, List.append_assoc, readText_escapedChar c (by simp), ih]
    rfl

end ChangeImpact.Json
