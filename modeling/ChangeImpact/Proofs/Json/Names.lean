import ChangeImpact.Record

/-!
# Texts as names

Names are compared by their canonical form, so that `1` and `1.0` are one name. Texts stand apart
from that: no two texts, and no text and anything else, are one name unless they are equal. What
follows is all that the proofs about modules, files and entities need to know of comparison.
-/

namespace ChangeImpact.Json

/-- Whatever compares equal to a text is that text. -/
theorem eq_str_of_beq {s : String} {a : Json} (h : (Json.str s == a) = true) : a = .str s := by
  rw [beq_iff] at h
  cases a with
  | str t => simpa [canonical] using h.symm
  | float x =>
    simp only [canonical, ofNumber] at h
    split at h
    next => split at h <;> cases h
    next => cases h
  | null | bool | int | arr | obj => simp [canonical] at h

/-- Only a text equals a text. -/
theorem beq_str_iff {s : String} {a : Json} : (Json.str s == a) = true ↔ a = .str s :=
  ⟨eq_str_of_beq, fun h => by rw [h]; exact BEq.rfl⟩

/-- That also goes for the other comparison. -/
theorem str_equals_iff {s : String} {a : Json} : (Json.str s).equals a = true ↔ a = .str s := by
  simp only [equals, isNaN, Bool.not_false, Bool.and_true]
  exact beq_str_iff

/-- The value is a text. -/
def IsText (a : Json) : Prop := ∃ s, a = .str s

theorem isText_str (s : String) : IsText (.str s) := ⟨s, rfl⟩

instance decidableIsText : DecidablePred IsText
  | .str s => isTrue ⟨s, rfl⟩
  | .null | .bool _ | .int _ | .float _ | .arr _ | .obj _ => isFalse fun h => by
    obtain ⟨s, hs⟩ := h
    cases hs

/-- The value is a list of texts. -/
def IsTexts (value : Json) : Prop := ∃ items, value = .arr items ∧ ∀ item ∈ items, item.IsText

/-- Comparison tells a text apart from everything else. -/
theorem IsText.eq_of_beq {a b : Json} (ha : a.IsText) (h : (a == b) = true) : a = b := by
  obtain ⟨s, rfl⟩ := ha
  exact (eq_str_of_beq h).symm

/-- A text is compared as a whole. -/
theorem IsText.beq_iff {a b : Json} (ha : a.IsText) : (a == b) = true ↔ a = b :=
  ⟨ha.eq_of_beq, fun h => by rw [h]; exact BEq.rfl⟩

/-- The two comparisons agree on it. -/
theorem IsText.equals_iff {a b : Json} (ha : a.IsText) : a.equals b = true ↔ a = b := by
  obtain ⟨s, rfl⟩ := ha
  rw [str_equals_iff, eq_comm]

/-- Lists of texts are compared text by text. -/
theorem texts_eq_of_beq {as bs : List Json} (has : ∀ a ∈ as, a.IsText)
    (h : (as == bs) = true) : as = bs := by
  induction as generalizing bs with
  | nil =>
    cases bs with
    | nil => rfl
    | cons b bs => cases h
  | cons a as ih =>
    cases bs with
    | nil => cases h
    | cons b bs =>
      obtain ⟨ha, hrest⟩ := List.forall_mem_cons.mp has
      obtain ⟨hfirst, hothers⟩ := Bool.and_eq_true_iff.mp h
      rw [ha.eq_of_beq hfirst, ih hrest hothers]

/-! ## Lists of names -/

/-- Lists of names are compared by the canonical forms of their items. -/
theorem list_beq_iff {as bs : List Json} :
    (as == bs) = true ↔ as.map canonical = bs.map canonical := by
  induction as generalizing bs with
  | nil => cases bs <;> simp
  | cons a as ih =>
    cases bs with
    | nil => simp
    | cons b bs =>
      rw [List.cons_beq_cons, Bool.and_eq_true, ih, beq_iff, List.map_cons, List.map_cons,
        List.cons.injEq]

/-- A list holds a name if it holds its canonical form. -/
theorem contains_iff_canonical {as : List Json} {a : Json} :
    as.contains a = true ↔ a.canonical ∈ as.map canonical := by
  rw [List.contains_iff_exists_mem_beq, List.mem_map]
  simp only [beq_iff, @eq_comm _ a.canonical]

/-- A list holds a text if the text is among its items. -/
theorem IsText.contains_iff {as : List Json} {a : Json} (ha : a.IsText) :
    as.contains a = true ↔ a ∈ as := by
  rw [List.contains_iff_exists_mem_beq]
  constructor
  · intro hgiven
    obtain ⟨b, hb, heq⟩ := hgiven
    rwa [ha.eq_of_beq heq]
  · exact fun hmem => ⟨a, hmem, BEq.rfl⟩

/-- Two lists of names have one in common, whichever is looked through. -/
theorem any_contains_comm (as bs : List Json) : as.any bs.contains = bs.any as.contains := by
  have hshared : ∀ cs ds : List Json, cs.any ds.contains = true ↔
      ∃ c ∈ cs, ∃ d ∈ ds, c.canonical = d.canonical := by
    intro cs ds
    simp only [List.any_eq_true, List.contains_iff_exists_mem_beq, beq_iff]
  rw [Bool.eq_iff_iff, hshared, hshared]
  constructor
  · intro hgiven
    obtain ⟨a, ha, b, hb, heq⟩ := hgiven
    exact ⟨b, hb, a, ha, heq.symm⟩
  · intro hgiven
    obtain ⟨b, hb, a, ha, heq⟩ := hgiven
    exact ⟨a, ha, b, hb, heq.symm⟩

end ChangeImpact.Json
