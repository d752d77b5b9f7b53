import ChangeImpact.Proofs.Checked
import ChangeImpact.Proofs.Json.Names
import ChangeImpact.Record

/-!
# When a record is built

An object is a record of a schema exactly if it has no unknown fields, has all those that must be
given, and holds one of the words wherever a choice is to be made.

> `build_eq_ok`: what `Schema.build` gives, and when.

Where a record has a list of texts, the list is read without a fault (`needItems_arr`,
`needTexts_texts`).
-/

namespace ChangeImpact

/-- A check of all items passes if each of them does. -/
theorem Checked.forM_eq_ok {α : Type} {f : α → Checked Unit} {as : List α} :
    as.forM f = .ok () ↔ ∀ a ∈ as, f a = .ok () := by
  induction as with
  | nil => simp [pure, Except.pure]
  | cons a as ih =>
    rw [List.forM_eq_forM, List.forM_cons, bind_eq_ok, List.forall_mem_cons, ← ih]
    constructor
    · intro hgiven
      obtain ⟨⟨⟩, ha, hrest⟩ := hgiven
      exact ⟨ha, hrest⟩
    · intro hgiven
      obtain ⟨ha, hrest⟩ := hgiven
      exact ⟨(), ha, hrest⟩

namespace Schema

/-- The value is one that may be chosen. -/
def Choice.Admits (choice : Choice) (value : Json) : Prop :=
  (choice.mayBeNull = true ∧ value = .null) ∨ ∃ word ∈ choice.words, value = .str word

/-- A choice is accepted if it admits what is in its field. -/
theorem checkChoice_eq_ok {record : List (String × Json)} {choice : Choice} :
    checkChoice record choice = .ok () ↔
      choice.Admits ((Json.lookup choice.field record).getD .null) := by
  unfold checkChoice Choice.Admits
  dsimp only
  split
  next hnull =>
    obtain ⟨hmay, hvalue⟩ := Bool.and_eq_true_iff.mp hnull
    exact iff_of_true rfl (Or.inl ⟨hmay, of_decide_eq_true hvalue⟩)
  next hnull =>
    rw [Checked.guardThat_eq_ok, List.any_eq_true]
    simp only [decide_eq_true_iff]
    constructor
    · exact Or.inr
    · intro hgiven
      rcases hgiven with ⟨hmay, hvalue⟩ | hword
      · exact absurd (Bool.and_eq_true_iff.mpr ⟨hmay, decide_eq_true hvalue⟩) hnull
      · exact hword

/-- **What is built.** The record has the fields of the schema, and there is one exactly if no field
is unknown, none is missing, and every choice is admitted. -/
theorem build_eq_ok {schema : Schema} {fields : List (String × Json)} {record : Json} :
    schema.build (.obj fields) = .ok record ↔
      (∀ field ∈ fields, ∃ known ∈ schema.fields, known.name = field.1) ∧
        ∃ complete, schema.fields.mapM (fieldOf fields) = .ok complete ∧
          (∀ choice ∈ schema.choices,
            choice.Admits ((Json.lookup choice.field complete).getD .null)) ∧
          record = .obj complete := by
  -- each check of the schema on its own, then all of them in a row
  have hknown : guardThat (fields.all fun field => schema.fields.any fun known =>
      known.name == field.1) .wrongType = .ok () ↔
      ∀ field ∈ fields, ∃ known ∈ schema.fields, known.name = field.1 := by
    rw [Checked.guardThat_eq_ok, List.all_eq_true]
    simp only [List.any_eq_true, beq_iff_eq]
  have hchoices : ∀ complete, schema.choices.forM (checkChoice complete) = .ok () ↔
      ∀ choice ∈ schema.choices,
        choice.Admits ((Json.lookup choice.field complete).getD .null) := by
    intro complete
    simp only [Checked.forM_eq_ok, checkChoice_eq_ok]
  unfold build
  dsimp only
  simp only [Checked.bind_eq_ok, Checked.pure_eq_ok]
  constructor
  · intro hgiven
    obtain ⟨⟨⟩, hall, complete, hcomplete, ⟨⟩, hadmits, hrecord⟩ := hgiven
    exact ⟨hknown.mp hall, complete, hcomplete, (hchoices complete).mp hadmits, hrecord.symm⟩
  · intro hgiven
    obtain ⟨hall, complete, hcomplete, hadmits, hrecord⟩ := hgiven
    exact ⟨(), hknown.mpr hall, complete, hcomplete, (), (hchoices complete).mpr hadmits,
      hrecord.symm⟩

end Schema

/-! ## Records of texts -/

namespace Json

variable {record : Json} {name : String}

/-- The items of a field with a list are those of the list. -/
theorem itemsAt_arr {items : List Json} (h : record.get name = .arr items) :
    record.itemsAt name = items := by
  unfold itemsAt
  rw [h]
  rfl

/-- They can be asked for as well. -/
theorem needItems_arr {items : List Json} (h : record.get name = .arr items) :
    record.needItems name = .ok items := by
  unfold needItems
  rw [h]
  rfl

/-- The items of a list of texts are texts. -/
theorem IsTexts.itemsAt (h : (record.get name).IsTexts) : ∀ item ∈ record.itemsAt name, item.IsText := by
  obtain ⟨items, heq, htexts⟩ := h
  rwa [itemsAt_arr heq]

/-- A list of texts is a list. -/
theorem IsTexts.needItems (h : (record.get name).IsTexts) : ∃ items, record.needItems name = .ok items :=
  have ⟨items, heq, _⟩ := h
  ⟨items, needItems_arr heq⟩

/-- Texts can be keys. -/
theorem needKeys_texts {values : List Json} (h : ∀ value ∈ values, value.IsText) :
    needKeys values = .ok () := by
  refine Checked.guardThat_eq_ok.mpr (List.all_eq_true.mpr fun value hvalue => ?_)
  obtain ⟨s, rfl⟩ := h value hvalue
  rfl

/-- Texts are texts, whatever the fault would be otherwise. -/
theorem needTexts_texts {values : List Json} (h : ∀ value ∈ values, value.IsText) (fault : Fault) :
    needTexts values fault = .ok () := by
  refine Checked.guardThat_eq_ok.mpr (List.all_eq_true.mpr fun value hvalue => ?_)
  obtain ⟨s, rfl⟩ := h value hvalue
  rfl

end Json

end ChangeImpact
