import ChangeImpact.Change.Parsed
import ChangeImpact.Proofs.Distinct
import ChangeImpact.Proofs.Record
import ChangeImpact.Proofs.Text.Runs
import ChangeImpact.Proofs.Text.Scan
import ChangeImpact.Proofs.Text.Search

/-!
# What is read in a change

Entities, operations and keywords are sifted out of the candidates that a text has, and each counts once.
`Entity.IsName` and `Keyword.IsWord` say what passes; of the operations, targets that are one in lower case
count once (`Operation.distinctTargets_nodup`). No keyword is missed: every maximal run of keyword
characters is a candidate (`Keyword.mem_inText_of_isRun`).

> `Parsed.ofChangeRecord_isWellFormed`: a change of texts is read, and what is read is well formed.
-/

namespace ChangeImpact

open Text

/-! ## Entities -/

namespace Entity

/-- What counts as the name of an entity. -/
structure IsName (name : String) : Prop where
  long : 2 < name.length
  capital : ∃ c ∈ name.toList.head?, isUpper c = true
  special : name ∉ excluded

/-- A candidate is an entity if and only if it may be the name of one. -/
theorem isEntity_iff {candidate : List Char} :
    isEntity candidate = true ↔ IsName (String.ofList candidate) := by
  have hcapital : (candidate.head?.map isUpper).getD false = true ↔
      ∃ c ∈ candidate.head?, isUpper c = true := by
    cases candidate <;> simp
  unfold isEntity
  rw [Bool.and_eq_true, Bool.and_eq_true, decide_eq_true_iff, hcapital, Bool.not_eq_true',
    ← Bool.not_eq_true, List.contains_iff_mem]
  constructor
  · rintro ⟨⟨hlong, hupper⟩, hspecial⟩
    exact ⟨by rwa [String.length_ofList], by rwa [String.toList_ofList], hspecial⟩
  · rintro ⟨hlong, hupper, hspecial⟩
    rw [String.length_ofList] at hlong
    rw [String.toList_ofList] at hupper
    exact ⟨⟨hlong, hupper⟩, hspecial⟩

/-- Every entity in a text may be the name of one. -/
theorem isName_of_mem_inText {text : List Char} {name : String} (h : name ∈ inText text) :
    IsName name := by
  obtain ⟨candidate, hcandidate, rfl⟩ := List.mem_map.mp (List.mem_eraseDups.mp h)
  exact isEntity_iff.mp (List.mem_filter.mp hcandidate).2

theorem inText_nodup (text : List Char) : (inText text).Nodup := eraseDups_nodup _

end Entity

/-! ## Operations -/

namespace Operation

variable {op : Operation} {ops : List Operation} {seen : List String} {text : List Char}

/-- An operation is kept if its target is long enough and was not met before. -/
theorem distinctTargets_cons (seen : List String) (op : Operation) (ops : List Operation) :
    distinctTargets seen (op :: ops) =
      if 2 < op.target.length ∧ lower op.target ∉ seen then
        op :: distinctTargets (lower op.target :: seen) ops
      else distinctTargets seen ops := by
  conv => lhs; unfold distinctTargets
  simp

/-- No target has fewer than three characters. -/
theorem lt_length_of_mem_distinctTargets (h : op ∈ distinctTargets seen ops) :
    2 < op.target.length := by
  induction ops generalizing seen with
  | nil => cases h
  | cons first ops ih =>
    rw [distinctTargets_cons] at h
    split at h
    next hkept =>
      rcases List.mem_cons.mp h with rfl | hlater
      · exact hkept.1
      · exact ih hlater
    next => exact ih h

/-- The targets that are kept differ, and no operation is kept for one that was met before. -/
theorem distinctTargets_nodup (seen : List String) (ops : List Operation) :
    ((distinctTargets seen ops).map fun op => lower op.target).Nodup ∧
      ∀ op ∈ distinctTargets seen ops, lower op.target ∉ seen := by
  induction ops generalizing seen with
  | nil => exact ⟨List.nodup_nil, fun _ hop => nomatch hop⟩
  | cons first ops ih =>
    rw [distinctTargets_cons]
    split
    next hkept =>
      obtain ⟨hnodup, hfresh⟩ := ih (lower first.target :: seen)
      constructor
      · rw [List.map_cons, List.nodup_cons]
        refine ⟨fun hagain => ?_, hnodup⟩
        obtain ⟨op, hop, heq⟩ := List.mem_map.mp hagain
        exact hfresh op hop (heq ▸ List.mem_cons_self ..)
      · intro op hop
        rcases List.mem_cons.mp hop with rfl | hlater
        · exact hkept.2
        · exact fun hmet => hfresh op hlater (List.mem_cons_of_mem _ hmet)
    next => exact ih seen

/-- Nothing is suggested if none of the words for it occurs. -/
theorem suggested_eq_none {lowered : List Char} : suggested? lowered = none ↔
    ∀ entry ∈ cueWords, ∀ word ∈ entry.2, ¬ word.toList <:+: lowered := by
  simp [suggested?, List.findSome?_eq_none_iff, containsChars_iff]

/-- What is suggested has the same target always. -/
theorem target_of_suggested {lowered : List Char} (h : suggested? lowered = some op) :
    op.target = inferredTarget := by
  obtain ⟨entry, _, hentry⟩ := List.exists_of_findSome?_eq_some h
  obtain ⟨word, _, rfl⟩ := Option.map_eq_some_iff.mp hentry
  rfl

/-- Either clauses ask for operations, or what the text suggests is all. -/
theorem inText_cases (text : List Char) :
    (distinctTargets [] (requested text) ≠ [] ∧ inText text = distinctTargets [] (requested text)) ∨
      inText text = (suggested? (lowerChars text)).toList := by
  unfold inText
  split
  next => exact Or.inr rfl
  next hsome => exact Or.inl ⟨hsome, rfl⟩

/-- Neither has the target of any operation in a text. -/
theorem lt_length_of_mem_inText (h : op ∈ inText text) : 2 < op.target.length := by
  rcases inText_cases text with ⟨-, heq⟩ | heq
  · exact lt_length_of_mem_distinctTargets (heq ▸ h)
  · rw [heq, Option.mem_toList] at h
    rw [target_of_suggested h]
    decide

/-- No two operations in a text have one target, whatever its case. -/
theorem inText_targets_nodup (text : List Char) :
    ((inText text).map fun op => lower op.target).Nodup := by
  rcases inText_cases text with ⟨-, heq⟩ | heq
  · rw [heq]
    exact (distinctTargets_nodup [] _).1
  · rw [heq]
    cases suggested? (lowerChars text) <;> simp

/-- A cue word in the text leaves no text without an operation. -/
theorem inText_ne_nil {entry : OperationType × List String} (hentry : entry ∈ cueWords) {word : String}
    (hword : word ∈ entry.2) (h : word.toList <:+: lowerChars text) : inText text ≠ [] := by
  rcases inText_cases text with ⟨hne, heq⟩ | heq
  · rwa [heq]
  · rw [heq]
    intro hnil
    rw [Option.toList_eq_nil_iff, suggested_eq_none] at hnil
    exact hnil entry hentry word hword h

end Operation

/-! ## Keywords -/

namespace Keyword

variable {text : List Char} {word : String}

/-- What counts as a keyword. -/
structure IsWord (word : String) : Prop where
  long : 3 ≤ word.length
  plain : ∀ c ∈ word.toList, isKeywordChar c = true
  telling : word ∉ stopWords

theorem isKeywordChar_of_isAsciiLower {c : Char} (h : isAsciiLower c = true) : isKeywordChar c = true := by
  simp [isKeywordChar, h]

/-- The parts of words in mixed case are letters, all small but for the first one. -/
theorem letters_of_mixedPart {before : Option Char} {cs part : List Char} {length : Nat}
    (h : mixedPart before cs = some (part, length)) :
    ∀ c ∈ part, isAsciiLower c = true ∨ isAsciiUpper c = true := by
  unfold mixedPart at h
  split at h
  next => cases h
  next c rest =>
    split at h
    -- a part of small letters, or a capital with small letters behind it
    next hsmall =>
      dsimp only at h
      split at h
      next =>
        obtain ⟨rfl, -⟩ := Prod.mk.inj (Option.some.inj h)
        exact fun d hd => Or.inl (List.mem_takeWhile_imp hd)
      next => cases h
    next =>
      split at h
      next hcapital =>
        split at h
        next => cases h
        next =>
          obtain ⟨rfl, -⟩ := Prod.mk.inj (Option.some.inj h)
          refine List.forall_mem_cons.mpr ⟨Or.inr hcapital, fun d hd => Or.inl ?_⟩
          exact List.mem_takeWhile_imp hd
      next => cases h

/-- Every candidate consists of keyword characters. -/
theorem plain_of_mem_candidates (h : word ∈ candidates text) :
    ∀ c ∈ word.toList, isKeywordChar c = true := by
  obtain ⟨letters, hletters, rfl⟩ := List.mem_map.mp h
  rw [String.toList_ofList]
  rcases List.mem_append.mp hletters with hrun | hpart
  · obtain ⟨before, after, -, hrun⟩ := mem_runs.mp hrun
    exact hrun.all
  · obtain ⟨part, hfound, rfl⟩ := List.mem_map.mp hpart
    obtain ⟨before, rest, length, hmatch⟩ := exists_of_mem_findAllFrom hfound
    intro c hc
    obtain ⟨letter, hletter, rfl⟩ := List.mem_map.mp hc
    refine isKeywordChar_of_isAsciiLower ?_
    rcases letters_of_mixedPart hmatch letter hletter with hsmall | hcapital
    · rwa [toLower_of_isAsciiLower hsmall]
    · exact isAsciiLower_toLower hcapital

/-- Keywords are the candidates that are long enough and no stop words. -/
theorem mem_inText : word ∈ inText text ↔ word ∈ candidates text ∧ 3 ≤ word.length ∧ word ∉ stopWords := by
  simp [inText, isKeyword, Nat.succ_le_iff]

/-- Every keyword in a text is a word. -/
theorem isWord_of_mem_inText (h : word ∈ inText text) : IsWord word :=
  have ⟨hcandidate, hlong, htelling⟩ := mem_inText.mp h
  ⟨hlong, plain_of_mem_candidates hcandidate, htelling⟩

theorem inText_nodup (text : List Char) : (inText text).Nodup := eraseDups_nodup _

/-- No run of keyword characters is missed. -/
theorem mem_inText_of_isRun {before run after : List Char}
    (htext : before ++ (run ++ after) = lowerChars text) (h : IsRun isKeywordChar before run after)
    (hlong : 3 ≤ run.length) (htelling : String.ofList run ∉ stopWords) :
    String.ofList run ∈ inText text := by
  have hrun : run ∈ runs isKeywordChar (lowerChars text) := mem_runs.mpr ⟨before, after, htext, h⟩
  refine mem_inText.mpr ⟨?_, by rwa [String.length_ofList], htelling⟩
  exact List.mem_map_of_mem (List.mem_append_left _ hrun)

end Keyword

/-! ## Parsed changes -/

namespace Change

/-- A change all of whose parts are texts. -/
def ofTexts (description : String) (files modules : List String) (specId : Name)
    (changeType : Option ChangeType) : Change where
  description := .str description
  targetModules := modules.map Json.str
  targetFiles := files.map Json.str
  specId := specId
  changeType := changeType

section Texts

variable (description : String) (files modules : List String) (specId : Name)
  (changeType : Option ChangeType)

/-- A change is read back from its record. -/
theorem ofRecord_toJson (change : Change) : ofRecord change.toJson = change := by
  obtain ⟨description, modules, files, specId, changeType⟩ := change
  cases changeType with
  | none => rfl
  | some type => cases type <;> rfl

/-- The gathered text of a change of texts. -/
theorem text_ofTexts : (ofTexts description files modules specId changeType).text =
    joinWith [' '] ((if description = "" then [] else [description.toList]) ++
      files.map fileText ++ modules.map String.toList) := by
  by_cases hempty : description = "" <;>
    simp [text, ofTexts, Json.truthy, Json.display, Function.comp_def, hempty]

/-- A record of texts can be read. -/
theorem checkText_ofTexts :
    checkText (ofTexts description files modules specId changeType).toJson = .ok () := by
  have htexts : ∀ texts : List String, ∀ value ∈ texts.map Json.str, value.IsText := by
    intro texts value hvalue
    obtain ⟨s, -, rfl⟩ := List.mem_map.mp hvalue
    exact ⟨s, rfl⟩
  unfold checkText
  simp only [Checked.bind_eq_ok]
  refine ⟨_, Json.needItems_arr rfl, (), Json.needTexts_texts (htexts files) _, _,
    Json.needItems_arr rfl, (), Json.needTexts_texts (htexts modules) _, ?_⟩
  exact Checked.guardThat_eq_ok.mpr (Bool.or_true _)

end Texts

end Change

namespace Parsed

/-- What is read in a text is well formed, and no keyword is missing. -/
structure IsWellFormed (text : List Char) (parsed : Parsed) : Prop where
  /-- The entities are names, each listed once. -/
  entities : ∃ names : List String, parsed.entities = names.map Json.str ∧ names.Nodup ∧
    ∀ name ∈ names, Entity.IsName name
  /-- No two targets are one in lower case. -/
  targets : (parsed.operations.map fun op => lower op.target).Nodup
  long : ∀ op ∈ parsed.operations, 2 < op.target.length
  /-- A cue word in the text asks for something. -/
  asks : ∀ entry ∈ Operation.cueWords, ∀ word ∈ entry.2,
    word.toList <:+: lowerChars text → parsed.operations ≠ []
  /-- The keywords are words, each listed once. -/
  keywords : ∃ words : List String, parsed.keywords = words.map Json.str ∧ words.Nodup ∧
    ∀ word ∈ words, Keyword.IsWord word
  /-- Every long maximal run that is no stop word is a keyword. -/
  complete : ∀ before run after, before ++ (run ++ after) = lowerChars text →
    IsRun Keyword.isKeywordChar before run after → 3 ≤ run.length →
    String.ofList run ∉ Keyword.stopWords → Json.str (String.ofList run) ∈ parsed.keywords

/-- Whatever the text is, what it is found to say is well-formed. -/
theorem ofText_isWellFormed (text : List Char) (given : Option ChangeType) :
    IsWellFormed text (ofText text given) where
  entities := ⟨Entity.inText text, rfl, Entity.inText_nodup text,
    fun _ hname => Entity.isName_of_mem_inText hname⟩
  targets := Operation.inText_targets_nodup text
  long := fun _ hop => Operation.lt_length_of_mem_inText hop
  asks := fun _ hentry _ hword hcue => Operation.inText_ne_nil hentry hword hcue
  keywords := ⟨Keyword.inText text, rfl, Keyword.inText_nodup text,
    fun _ hword => Keyword.isWord_of_mem_inText hword⟩
  complete := fun _ _ _ htext hrun hlong htelling =>
    List.mem_map_of_mem (Keyword.mem_inText_of_isRun htext hrun hlong htelling)

/-- **Reading a change.** A change of texts is read without a fault, and what is read in the text that it
gathers is well formed. -/
theorem ofChangeRecord_isWellFormed (description : String) (files modules : List String) (specId : Name)
    (changeType : Option ChangeType) :
    ∃ parsed, ofChangeRecord (Change.ofTexts description files modules specId changeType).toJson =
        .ok parsed ∧
      IsWellFormed (joinWith [' '] ((if description = "" then [] else [description.toList]) ++
        files.map Change.fileText ++ modules.map String.toList)) parsed := by
  have hread : ofChangeRecord (Change.ofTexts description files modules specId changeType).toJson =
      .ok (ofChange (Change.ofTexts description files modules specId changeType)) := by
    unfold ofChangeRecord
    rw [Change.checkText_ofTexts, Change.ofRecord_toJson]
    rfl
  refine ⟨_, hread, ?_⟩
  rw [← Change.text_ofTexts description files modules specId changeType]
  exact ofText_isWellFormed _ _

end Parsed

end ChangeImpact
