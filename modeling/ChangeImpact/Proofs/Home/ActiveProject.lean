import ChangeImpact.Home.Project
import ChangeImpact.Proofs.Json.Lines

/-!
# The file of the active project is read back

The name of the active project is written into a document of one field, over several lines and in
ASCII. Whatever is done to line breaks when the file is read, it has none but line feeds, and the
name, or null, is read as it was written.

> `read_stateText`: the document that was written is the one that is read.
-/

namespace ChangeImpact

namespace Text

/-- Without carriage returns the line ends are as they were. -/
theorem withLineFeeds_eq_self {cs : List Char} (h : ∀ c ∈ cs, c ≠ '\r') : withLineFeeds cs = cs := by
  induction cs with
  | nil => rfl
  | cons c rest ih =>
    obtain ⟨hc, hrest⟩ := List.forall_mem_cons.mp h
    unfold withLineFeeds
    split
    next => contradiction
    next heq => exact absurd (List.cons_eq_cons.mp heq).1 hc
    next heq =>
      obtain ⟨rfl, rfl⟩ := List.cons_eq_cons.mp heq
      rw [ih hrest, if_neg (by simpa using hc)]

end Text

namespace Json

theorem hexDigit_ne_return : ∀ d, d < 16 → Text.hexDigit d ≠ '\r' := by decide

/-- A code of four digits is written without a carriage return. -/
theorem unitEscape_ne_return (n : Nat) : ∀ c ∈ unitEscape n, c ≠ '\r' := by
  unfold unitEscape
  rw [hexDigits_four]
  simp only [List.forall_mem_cons]
  refine ⟨by decide, by decide, ?_, ?_, ?_, ?_, by simp⟩
  all_goals exact hexDigit_ne_return _ (Nat.mod_lt _ (by decide))

/-- A written text has no carriage return, not even where the text has one. -/
theorem escapedChar_ne_return (c : Char) : ∀ d ∈ escapedChar c, d ≠ '\r' := by
  unfold escapedChar
  dsimp only
  split
  next => simp
  split
  next => simp
  split
  next => simp
  split
  next => simp
  next hreturn =>
  split
  next => simp
  split
  next => simp
  split
  next => simp
  split
  next => simpa using hreturn
  split
  next => exact unitEscape_ne_return _
  next => exact List.forall_mem_append.mpr ⟨unitEscape_ne_return _, unitEscape_ne_return _⟩

/-- A text is written without one, for the character itself is escaped. -/
theorem writtenText_ne_return (s : String) : ∀ c ∈ (writtenText s).toList, c ≠ '\r' := by
  unfold writtenText
  rw [String.toList_ofList]
  refine List.forall_mem_append.mpr ⟨List.forall_mem_cons.mpr ⟨by decide, fun d hd => ?_⟩, by simp⟩
  obtain ⟨c, -, hmem⟩ := List.mem_flatMap.mp hd
  exact escapedChar_ne_return c d hmem

end Json

namespace Workspace

/-- Null or a text: what is written as the active project. -/
def IsPointer (active : Json) : Prop := active = .null ∨ ∃ name, active = .str name

/-- The file is an object of one field on three lines. -/
theorem toList_stateText (active : Json) : (stateText active).toList =
    '\x7b' :: '\n' :: ' ' :: ' ' :: ((Json.writtenText "current_project").toList ++
      ':' :: ' ' :: ((Json.indentedAt 1 active).toList ++ ['\n', '\x7d'])) := by
  show ("\x7b" ++ (Json.newLine 1 ++ Json.writtenText "current_project" ++ ": " ++
    Json.indentedAt 1 active) ++ Json.newLine 0 ++ "\x7d").toList = _
  simp only [String.toList_append, Json.newLine, String.toList_ofList, List.append_assoc]
  rfl

/-- The file has no carriage return. -/
theorem stateText_ne_return {active : Json} (h : IsPointer active) :
    ∀ c ∈ (stateText active).toList, c ≠ '\r' := by
  have hactive : ∀ c ∈ (Json.indentedAt 1 active).toList, c ≠ '\r' := by
    rcases h with rfl | ⟨name, rfl⟩
    · show ∀ c ∈ "null".toList, c ≠ '\r'
      simp
    · exact Json.writtenText_ne_return name
  rw [toList_stateText]
  simp only [List.forall_mem_cons, List.forall_mem_append]
  exact ⟨by decide, by decide, by decide, by decide, Json.writtenText_ne_return _, by decide,
    by decide, hactive, by decide, by decide, by simp⟩

/-- The value of the field is read up to the line break behind it. -/
theorem readValue_pointer {active : Json} (h : IsPointer active) (room fuel : Nat) (rest : List Char) :
    Json.readValue room (fuel + 1) ((Json.indentedAt 1 active).toList ++ rest) =
      .ok (active, rest) := by
  rcases h with rfl | ⟨name, rfl⟩
  · show Json.readValue room (fuel + 1) ("null".toList ++ rest) = _
    rfl
  · exact Json.readValue_writtenText name fuel rest

/-- Behind the name of the field a value begins. -/
theorem beginsValue_pointer {active : Json} (h : IsPointer active) :
    Json.BeginsValue (Json.indentedAt 1 active).toList := by
  rcases h with rfl | ⟨name, rfl⟩
  · show Json.BeginsValue "null".toList
    exact Json.beginsValue_cons (by decide)
  · exact Json.beginsValue_line "" (.str name)

/-- **The active project is read back** from the text that names it, as a file gives it. -/
theorem read_stateText {active : Json} (h : IsPointer active) :
    Json.read (String.ofList (Text.withLineFeeds (stateText active).toList)) =
      .ok (.obj [("current_project", active)]) := by
  rw [Text.withLineFeeds_eq_self (stateText_ne_return h), String.ofList_toList]
  have hvalue : Json.readValue Json.maxNesting (2 * (stateText active).toList.length + 2)
      (stateText active).toList = .ok (.obj [("current_project", active)], []) := by
    -- one step for the object, one for its field and one for the value
    obtain ⟨fuel, hfuel⟩ : ∃ n, 2 * (stateText active).toList.length + 2 = n + 3 := by
      rw [toList_stateText]
      exact ⟨_, rfl⟩
    rw [hfuel, toList_stateText, Json.readValue, if_neg (by decide)]
    show (Json.readFields (Json.maxNesting - 1) (fuel + 2)
      ((Json.writtenText "current_project").toList ++ _)).map _ = _
    -- the gaps of the layout are skipped as they come
    have hskip : ∀ cs, Json.skipGap (':' :: cs) = ':' :: cs := fun _ => rfl
    have hblank : ∀ cs, Json.skipGap (' ' :: cs) = Json.skipGap cs := fun _ => rfl
    have hclose : Json.skipGap ['\n', '\x7d'] = ['\x7d'] := rfl
    simp only [Json.toList_writtenText, Json.readFields, Json.readText_written, hskip, hblank,
      ((beginsValue_pointer h).append _).skipGap, readValue_pointer h, hclose]
    rfl
  have hskip : Json.skipGap (stateText active).toList = (stateText active).toList := by
    rw [toList_stateText]
    rfl
  unfold Json.read Json.readChars
  split
  next heq =>
    rw [toList_stateText] at heq
    exact absurd (List.cons_eq_cons.mp heq).1 (by decide)
  next =>
    rw [hskip, hvalue]
    rfl

end Workspace

end ChangeImpact
