import Mathlib.Data.List.Basic
import ChangeImpact.Change.Parsed
import ChangeImpact.Proofs.Change.Clauses
import ChangeImpact.Proofs.Text.Trimming

/-!
# Texts that are made of instructions

An instruction is a verb of the table with the words that it is about. In a text of instructions each
of them is found by the clause of its verb and by no other one, unless the line breaks off behind it:
what a clause finds are the targets of those instructions that end in a point, a comma or the end of the
text (`findAllFrom_written`).

> `ofChangeRecord_answers`: each of these instructions is answered by an operation on its target.
> Instructions with one target, however it is spelled, share an operation, of the type among theirs that
> the table has first.
-/

namespace ChangeImpact

open Text

/-- A verb and the words that it is about. -/
structure Instruction where
  type : OperationType
  verb : List Char
  words : List (List Char)
deriving DecidableEq

namespace Instruction

/-- What the instruction is about. -/
def target (instruction : Instruction) : List Char := joinWith [' '] instruction.words

/-- The instruction as it stands in a text. -/
def text (instruction : Instruction) : List Char := instruction.verb ++ ' ' :: instruction.target

/-- The target in lower case. -/
def key (instruction : Instruction) : String := lower (String.ofList instruction.target)

/-- The instruction has a verb of its type, in any letter case, and at least three characters of words
that are made of letters and digits, none of which asks for anything by itself. -/
structure IsPlain (instruction : Instruction) : Prop where
  verb : ∃ entry ∈ Operation.verbs, entry.1 = instruction.type ∧ Spells entry.2.toList instruction.verb
  words : ∀ word ∈ instruction.words, word ≠ [] ∧ ∀ c ∈ word, c.isAlphanum = true
  unasking : ∀ word ∈ instruction.words, ¬ Spells "new".toList word ∧
    ∀ entry ∈ Operation.verbs, ¬ Spells entry.2.toList word
  long : 3 ≤ instruction.target.length

instance (instruction : Instruction) : Decidable instruction.IsPlain :=
  decidable_of_iff
    ((∃ entry ∈ Operation.verbs, entry.1 = instruction.type ∧ Spells entry.2.toList instruction.verb) ∧
      (∀ word ∈ instruction.words, word ≠ [] ∧ word.all Char.isAlphanum = true) ∧
      (∀ word ∈ instruction.words, ¬ Spells "new".toList word ∧
        ∀ entry ∈ Operation.verbs, ¬ Spells entry.2.toList word) ∧ 3 ≤ instruction.target.length) <| by
    simp only [List.all_eq_true]
    exact ⟨fun ⟨hverb, hwords, hunasking, hlong⟩ => ⟨hverb, hwords, hunasking, hlong⟩,
      fun h => ⟨h.verb, h.words, h.unasking, h.long⟩⟩

/-- What stands behind an instruction that another one follows. -/
inductive Stop where
  | point | comma | lineBreak
deriving DecidableEq

/-- The mark at the end of the instruction. -/
def Stop.mark : Stop → List Char
  | .point => ['.']
  | .comma => [',']
  | .lineBreak => []

/-- What keeps it apart from the next one. -/
def Stop.gap : Stop → Char
  | .point | .comma => ' '
  | .lineBreak => '\n'

/-- Instructions one after the other, each but the last one with what stands behind it. -/
def written : List (Instruction × Stop) → Instruction → List Char
  | [], last => last.text
  | (first, stop) :: parts, last => first.text ++ (stop.mark ++ stop.gap :: written parts last)

/-- The instructions that end in a mark or with the text. -/
def ended : List (Instruction × Stop) → Instruction → List Instruction
  | [], last => [last]
  | (first, .point) :: parts, last | (first, .comma) :: parts, last => first :: ended parts last
  | (_, .lineBreak) :: parts, last => ended parts last

/-! ## The text of an instruction -/

/-- An instruction is its verb, a blank and its target. -/
theorem text_append (instruction : Instruction) (tail : List Char) :
    instruction.text ++ tail = instruction.verb ++ ' ' :: (instruction.target ++ tail) := by
  simp [text]

namespace IsPlain

variable {instruction : Instruction}

/-- A plain target begins and ends with a letter or a digit. -/
theorem ends (h : instruction.IsPlain) : ∃ c d, instruction.target.head? = some c ∧
    instruction.target.getLast? = some d ∧ c.isAlphanum = true ∧ d.isAlphanum = true := by
  refine joinWith_ends [' '] (fun hnil => ?_) h.words
  have hlong := h.long
  rw [target, hnil] at hlong
  cases hlong

/-- So it has no blanks at its ends. -/
theorem trimmed (h : instruction.IsPlain) : Trimmed instruction.target := by
  obtain ⟨c, d, hhead, hlast, hc, hd⟩ := h.ends
  refine ⟨fun e he => ?_, fun e he => ?_⟩
  · obtain rfl := Option.mem_unique hhead he
    exact isBlank_of_isAlphanum hc
  · obtain rfl := Option.mem_unique hlast he
    exact isBlank_of_isAlphanum hd

/-- No instruction ends before its target does. -/
theorem unbroken (h : instruction.IsPlain) :
    ∀ c ∈ instruction.target, c ≠ '.' ∧ c ≠ ',' ∧ c ≠ '\n' := by
  refine joinWith_chars (List.forall_mem_singleton.mpr (by decide)) fun word hword c hc => ?_
  have halnum := (h.words word hword).2 c hc
  refine ⟨?_, ?_, ?_⟩ <;> rintro rfl <;> exact absurd halnum (by decide)

end IsPlain

/-! ## What a clause finds -/

/-- The verb of the instruction is one of the clause. -/
def Asks (clause : Operation.Clause) (instruction : Instruction) : Prop :=
  ∃ word ∈ clause.verbWords, Spells word.toList instruction.verb

instance (clause : Operation.Clause) (instruction : Instruction) : Decidable (Asks clause instruction) :=
  inferInstanceAs (Decidable (∃ word ∈ clause.verbWords, _))

section Finding

variable {type : OperationType} {clause : Operation.Clause} {instruction : Instruction}
  {before : Option Char} {tail : List Char}

/-- The words that clauses start with are in lower case. -/
theorem isLowerWord_of_listed (hclause : (type, clause) ∈ Operation.listed) :
    ∀ word ∈ clause.starts, IsLowerWord word.toList := fun word hword =>
  (Operation.starts_listed (type, clause) hclause word hword).1

/-- A verb is made of letters and digits. -/
theorem IsPlain.verb_isAlphanum (h : instruction.IsPlain) :
    ∀ c ∈ instruction.verb, c.isAlphanum = true := by
  obtain ⟨entry, hentry, -, hspells⟩ := h.verb
  exact hspells.isAlphanum (Operation.verbs_spell_type entry hentry).1.2

/-- The words of an instruction start no clause. -/
theorem IsPlain.clauseTarget_word (h : instruction.IsPlain)
    (hclause : (type, clause) ∈ Operation.listed) :
    ∀ word ∈ instruction.words, ∀ before tail, EndsWord tail →
      Operation.clauseTarget clause before (word ++ tail) = none := by
  intro word hword before tail htail
  refine Operation.clauseTarget_eq_none (isLowerWord_of_listed hclause) (h.words word hword).2 htail ?_
  intro start hstart hspells
  obtain ⟨hnew, hverbs⟩ := h.unasking word hword
  rcases (Operation.starts_listed (type, clause) hclause start hstart).2 with rfl | hmem
  · exact hnew hspells
  · exact hverbs _ hmem hspells

/-- An instruction starts the clauses that have its verb, if its line does not break off. -/
theorem IsPlain.clauseTarget_text (h : instruction.IsPlain)
    (hclause : (type, clause) ∈ Operation.listed) (hbefore : Operation.startsWord before = true)
    (tail : List Char) :
    Operation.clauseTarget clause before (instruction.text ++ tail) =
      if Asks clause instruction then
        (Operation.phraseRest? tail).map fun (rest, n) =>
          (instruction.target ++ rest, instruction.text.length + rest.length + n)
      else none := by
  rw [text_append]
  split
  next hasks =>
    obtain ⟨word, hword, hspells⟩ := hasks
    cases clause with
    | afterNew => cases hword
    | verbs words =>
      obtain ⟨c, -, hhead, -, hc, -⟩ := h.ends
      obtain ⟨letters, htarget⟩ := List.head?_eq_some_iff.mp hhead
      have hunbroken := h.unbroken
      have hlower : ∀ word ∈ words, IsLowerWord word.toList := isLowerWord_of_listed hclause
      rw [htarget] at hunbroken
      rw [text, htarget, Operation.clauseTarget_verb hlower hword hspells hbefore
        (isBlank_of_isAlphanum hc) hunbroken]
      cases Operation.phraseRest? tail with
      | none => rfl
      | some found =>
        simp only [Option.map_some, List.length_append, List.length_cons]
        congr 2
        omega
  next hasks =>
    refine Operation.clauseTarget_eq_none (isLowerWord_of_listed hclause) h.verb_isAlphanum
      (endsWord_cons (by decide)) fun start hstart hspells => ?_
    cases clause with
    | verbs words => exact hasks ⟨start, hstart, hspells⟩
    | afterNew =>
      -- no verb is spelled `new`
      obtain ⟨entry, hentry, -, hverb⟩ := h.verb
      have hnew : entry.2 = start := String.toList_injective (hverb.symm.trans hspells)
      exact (Operation.verbs_spell_type entry hentry).2.1 (hnew.trans (List.mem_singleton.mp hstart))

/-- An instruction that is not found is passed over. -/
theorem IsPlain.exists_findAllFrom_passed (h : instruction.IsPlain)
    (hclause : (type, clause) ∈ Operation.listed) (htail : EndsWord tail)
    (hnone : Operation.clauseTarget clause before (instruction.text ++ tail) = none) :
    ∃ before', findAllFrom (Operation.clauseTarget clause) before 0 (instruction.text ++ tail) =
      findAllFrom (Operation.clauseTarget clause) before' 0 tail := by
  have hwords := Operation.clauseTarget_matchesWords (isLowerWord_of_listed hclause)
  rw [text_append] at hnone ⊢
  obtain ⟨middle, hmiddle⟩ := hwords.exists_findAllFrom_word
    (fun c hc => isWord_of_isAlphanum (h.verb_isAlphanum c hc)) hnone
  obtain ⟨last, hlast⟩ := hwords.exists_findAllFrom_words
    (fun word hword c hc => isWord_of_isAlphanum ((h.words word hword).2 c hc))
    (h.clauseTarget_word hclause) htail (some ' ')
  refine ⟨last, ?_⟩
  rw [hmiddle, hwords.findAllFrom_between (by decide)]
  exact hlast

/-- The targets of the instructions that have a verb of the clause. -/
def targetsFor (clause : Operation.Clause) (instructions : List Instruction) : List (List Char) :=
  (instructions.filter fun instruction => Asks clause instruction).map target

/-- The targets of several instructions are those of each, one after the other. -/
theorem targetsFor_cons (clause : Operation.Clause) (first : Instruction) (rest : List Instruction) :
    targetsFor clause (first :: rest) = targetsFor clause [first] ++ targetsFor clause rest := by
  unfold targetsFor
  rw [← List.map_append, ← List.filter_append, List.singleton_append]

/-- An instruction that ends in a mark or with the text is found by its clause. -/
theorem IsPlain.exists_findAllFrom_ended (h : instruction.IsPlain)
    (hclause : (type, clause) ∈ Operation.listed) (hbefore : Operation.startsWord before = true)
    (mark rest : List Char)
    (hmark : (mark = ['.'] ∨ mark = [',']) ∨ mark = [] ∧ rest = []) :
    ∃ before', findAllFrom (Operation.clauseTarget clause) before 0 (instruction.text ++ (mark ++ rest)) =
      targetsFor clause [instruction] ++ findAllFrom (Operation.clauseTarget clause) before' 0 rest := by
  have hwords := Operation.clauseTarget_matchesWords (isLowerWord_of_listed hclause)
  have hphrase : Operation.phraseRest? (mark ++ rest) = some ([], mark.length) := by
    rcases hmark with (rfl | rfl) | ⟨rfl, rfl⟩ <;> rfl
  have hend : EndsWord (mark ++ rest) := by
    rcases hmark with (rfl | rfl) | ⟨rfl, rfl⟩
    · exact endsWord_cons (by decide)
    · exact endsWord_cons (by decide)
    · exact endsWord_nil
  have hmatch := h.clauseTarget_text hclause hbefore (mark ++ rest)
  -- what the clause finds, it finds up to and with the mark; what it does not find is passed over
  by_cases hasks : Asks clause instruction
  · rw [if_pos hasks, hphrase] at hmatch
    have hfound : Operation.clauseTarget clause before ((instruction.text ++ mark) ++ rest) =
        some (instruction.target, (instruction.text ++ mark).length) := by
      rw [List.append_assoc, hmatch]
      simp
    obtain ⟨before', hscan⟩ := exists_findAllFrom_found (by simp [text]) hfound
    refine ⟨before', ?_⟩
    rw [← List.append_assoc, hscan]
    simp [targetsFor, hasks]
  · rw [if_neg hasks] at hmatch
    obtain ⟨middle, hpassed⟩ := h.exists_findAllFrom_passed hclause hend hmatch
    have hnothing : targetsFor clause [instruction] = [] := by simp [targetsFor, hasks]
    simp only [hpassed, hnothing, List.nil_append]
    rcases hmark with (rfl | rfl) | ⟨rfl, rfl⟩
    · exact ⟨some '.', hwords.findAllFrom_between (by decide)⟩
    · exact ⟨some ',', hwords.findAllFrom_between (by decide)⟩
    · exact ⟨middle, rfl⟩

/-- An instruction whose line breaks off is found by no clause. -/
theorem IsPlain.findAllFrom_broken (h : instruction.IsPlain)
    (hclause : (type, clause) ∈ Operation.listed) (hbefore : Operation.startsWord before = true)
    {rest : List Char} (hrest : rest ≠ []) :
    findAllFrom (Operation.clauseTarget clause) before 0 (instruction.text ++ '\n' :: rest) =
      findAllFrom (Operation.clauseTarget clause) (some '\n') 0 rest := by
  obtain ⟨c, rest, rfl⟩ := List.exists_cons_of_ne_nil hrest
  have hwords := Operation.clauseTarget_matchesWords (isLowerWord_of_listed hclause)
  have hphrase : Operation.phraseRest? ('\n' :: c :: rest) = none := rfl
  have hmatch := h.clauseTarget_text hclause hbefore ('\n' :: c :: rest)
  rw [hphrase, Option.map_none, ite_self] at hmatch
  obtain ⟨middle, hpassed⟩ := h.exists_findAllFrom_passed hclause (endsWord_cons (by decide)) hmatch
  rw [hpassed, hwords.findAllFrom_between (by decide)]

theorem written_ne_nil (parts : List (Instruction × Stop)) (last : Instruction) :
    written parts last ≠ [] := by
  cases parts <;> simp [written, text]

/-- **What a clause finds.** In a text of instructions a clause finds the targets of those that have one
of its verbs and do not end in a line break. -/
theorem findAllFrom_written (hclause : (type, clause) ∈ Operation.listed)
    {parts : List (Instruction × Stop)} {last : Instruction}
    (hplain : ∀ instruction ∈ parts.map Prod.fst ++ [last], instruction.IsPlain)
    (hbefore : Operation.startsWord before = true) :
    findAllFrom (Operation.clauseTarget clause) before 0 (written parts last) =
      targetsFor clause (ended parts last) := by
  have hwords := Operation.clauseTarget_matchesWords (isLowerWord_of_listed hclause)
  induction parts generalizing before with
  | nil =>
    have hlast := hplain last (List.mem_singleton.mpr rfl)
    obtain ⟨before', hscan⟩ :=
      hlast.exists_findAllFrom_ended hclause hbefore [] [] (Or.inr ⟨rfl, rfl⟩)
    simp only [List.append_nil] at hscan
    rw [written, hscan]
    exact List.append_nil _
  | cons part parts ih =>
    obtain ⟨first, stop⟩ := part
    have hfirst := hplain first (List.mem_cons_self ..)
    have hrest : ∀ instruction ∈ parts.map Prod.fst ++ [last], instruction.IsPlain :=
      fun instruction hmem => hplain instruction (List.mem_cons_of_mem first hmem)
    -- a point and a comma end a clause in the same way, and a blank follows
    have hmarked : ∀ mark, mark = ['.'] ∨ mark = [','] →
        findAllFrom (Operation.clauseTarget clause) before 0
          (first.text ++ (mark ++ ' ' :: written parts last)) =
            targetsFor clause (first :: ended parts last) := by
      intro mark hmark
      obtain ⟨middle, hscan⟩ := hfirst.exists_findAllFrom_ended hclause hbefore mark
        (' ' :: written parts last) (Or.inl hmark)
      rw [hscan, hwords.findAllFrom_between (by decide), ih hrest rfl]
      exact (targetsFor_cons clause first _).symm
    cases stop with
    | point => exact hmarked ['.'] (Or.inl rfl)
    | comma => exact hmarked [','] (Or.inr rfl)
    | lineBreak =>
      show findAllFrom _ before 0 (first.text ++ '\n' :: written parts last) = _
      rw [hfirst.findAllFrom_broken hclause hbefore (written_ne_nil parts last), ih hrest rfl, ended]

end Finding

/-! ## What a text of instructions asks for -/

/-- The types and targets that are asked for, in the order of the table. -/
def asked (instructions : List Instruction) : List (OperationType × String) :=
  Operation.listed.flatMap fun entry =>
    (targetsFor entry.2 instructions).map fun target => (entry.1, String.ofList target)

section Asking

variable {parts : List (Instruction × Stop)} {last : Instruction}

/-- Only instructions that were written are answered. -/
theorem ended_subset (parts : List (Instruction × Stop)) (last : Instruction) :
    ended parts last ⊆ parts.map Prod.fst ++ [last] := by
  induction parts with
  | nil => exact List.Subset.refl _
  | cons part parts ih =>
    obtain ⟨first, stop⟩ := part
    cases stop with
    | point | comma => exact List.cons_subset_cons first ih
    | lineBreak => exact List.Subset.trans ih (List.subset_cons_self ..)

/-- A text of instructions asks for what the instructions ask for that do not end in a line break. -/
theorem map_requested_written
    (hplain : ∀ instruction ∈ parts.map Prod.fst ++ [last], instruction.IsPlain) :
    (Operation.requested (written parts last)).map (fun op => (op.type, op.target)) =
      asked (ended parts last) := by
  rw [Operation.requested_eq, List.map_flatMap, asked]
  refine List.flatMap_congr fun entry hentry => ?_
  have hfound : findAll (Operation.clauseTarget entry.2) (written parts last) =
      targetsFor entry.2 (ended parts last) := findAllFrom_written hentry hplain rfl
  rw [Operation.map_findAll_clauseOperation, hfound, targetsFor, List.map_map, List.map_map]
  refine List.map_congr_left fun instruction hmem => ?_
  have htrimmed := (hplain instruction (ended_subset parts last (List.mem_filter.mp hmem).1)).trimmed
  simp only [Function.comp_apply, htrimmed.trimChars_eq]

variable {instructions : List Instruction}

/-- Each instruction asks for its type and its target, and nothing else is asked for. -/
theorem mem_asked (hplain : ∀ instruction ∈ instructions, instruction.IsPlain) {type : OperationType}
    {target : String} : (type, target) ∈ asked instructions ↔
      ∃ instruction ∈ instructions, instruction.type = type ∧
        String.ofList instruction.target = target := by
  unfold asked targetsFor
  simp only [List.mem_flatMap, List.mem_map, List.mem_filter, decide_eq_true_eq, Prod.mk.injEq]
  constructor
  · rintro ⟨⟨type', clause⟩, hlisted, _, ⟨instruction, ⟨hmem, word, hword, hspells⟩, rfl⟩, rfl, rfl⟩
    obtain ⟨entry, hentry, hentrytype, hverb⟩ := (hplain instruction hmem).verb
    -- a verb is one of a single type
    have hsame := (Operation.verbs_spell_type entry hentry).2.2 (type', word)
      (Operation.mem_verbs.mpr ⟨clause, hlisted, hword⟩)
      (String.toList_injective (hspells.symm.trans hverb))
    exact ⟨instruction, hmem, hentrytype.symm.trans hsame.symm, rfl⟩
  · rintro ⟨instruction, hmem, rfl, rfl⟩
    obtain ⟨⟨type, word⟩, hentry, rfl, hverb⟩ := (hplain instruction hmem).verb
    obtain ⟨clause, hlisted, hword⟩ := Operation.mem_verbs.mp hentry
    exact ⟨(instruction.type, clause), hlisted, _, ⟨instruction, ⟨hmem, word, hword, hverb⟩, rfl⟩, rfl, rfl⟩

/-- What is asked for is in the order of the table. -/
theorem asked_pairwise (instructions : List Instruction) :
    (asked instructions).Pairwise fun a b => Operation.rank a.1 ≤ Operation.rank b.1 := by
  refine List.pairwise_flatMap.mpr ⟨fun entry _ => ?_, Operation.listed_pairwise.imp ?_⟩
  · exact List.pairwise_map.mpr (List.pairwise_of_forall fun _ _ => Nat.le_refl _)
  · intro first second hle a ha b hb
    obtain ⟨_, -, rfl⟩ := List.mem_map.mp ha
    obtain ⟨_, -, rfl⟩ := List.mem_map.mp hb
    exact hle

end Asking

/-! ## Answers -/

/-- An operation answers an instruction among others: up to letter case it has its target, it is what one
of those with that target asks for, and none of them has a type that comes earlier in the table. -/
structure Answers (instructions : List Instruction) (instruction : Instruction) (op : Operation) :
    Prop where
  target : lower op.target = instruction.key
  asked : ∃ other ∈ instructions, other.key = instruction.key ∧ other.type = op.type ∧
    String.ofList other.target = op.target
  earliest : ∀ other ∈ instructions, other.key = instruction.key →
    Operation.rank op.type ≤ Operation.rank other.type

/-- Every instruction that ends in a mark or with the text is answered by an operation of the text. -/
theorem exists_answer {parts : List (Instruction × Stop)} {last : Instruction}
    (hplain : ∀ instruction ∈ parts.map Prod.fst ++ [last], instruction.IsPlain)
    {instruction : Instruction} (hended : instruction ∈ ended parts last) :
    ∃ op ∈ Operation.inText (written parts last), Answers (ended parts last) instruction op := by
  have hendedPlain : ∀ other ∈ ended parts last, other.IsPlain :=
    fun other hother => hplain other (ended_subset parts last hother)
  have hrequested := map_requested_written hplain
  -- whatever asks for the target is requested, and is not passed over
  have hclaims : ∀ other ∈ ended parts last, other.key = instruction.key →
      ∃ op ∈ Operation.requested (written parts last), op.type = other.type ∧
        Operation.claims instruction.key op = true := by
    intro other hother hkey
    have hasked := (mem_asked hendedPlain).mpr ⟨other, hother, rfl, rfl⟩
    rw [← hrequested] at hasked
    obtain ⟨op, hop, heq⟩ := List.mem_map.mp hasked
    obtain ⟨htype, htarget⟩ := Prod.mk.inj heq
    refine ⟨op, hop, htype, ?_⟩
    rw [Operation.claims, htarget, String.length_ofList, Bool.and_eq_true, decide_eq_true_eq, beq_iff_eq]
    exact ⟨(hendedPlain other hother).long, hkey⟩
  have hsorted := asked_pairwise (ended parts last)
  rw [← hrequested, List.pairwise_map] at hsorted
  obtain ⟨op, hfind⟩ : ∃ op, (Operation.requested (written parts last)).find?
      (Operation.claims instruction.key) = some op := by
    obtain ⟨op, hop, -, hclaim⟩ := hclaims instruction hended rfl
    exact Option.isSome_iff_exists.mp (List.find?_isSome.mpr ⟨op, hop, hclaim⟩)
  have hkept := Operation.mem_distinctTargets (List.not_mem_nil) hfind
  rw [← Operation.inText_eq hkept] at hkept
  have hclaim := List.find?_some hfind
  have hkey : lower op.target = instruction.key := beq_iff_eq.mp (Bool.and_eq_true_iff.mp hclaim).2
  refine ⟨op, hkept, hkey, ?_, fun other hother hsame => ?_⟩
  · have hasked : (op.type, op.target) ∈ asked (ended parts last) := by
      rw [← hrequested]
      exact List.mem_map_of_mem (List.mem_of_find?_eq_some hfind)
    obtain ⟨other, hother, htype, htarget⟩ := (mem_asked hendedPlain).mp hasked
    exact ⟨other, hother, (congrArg lower htarget).trans hkey, htype, htarget⟩
  · obtain ⟨op', hop', htype, hclaim⟩ := hclaims other hother hsame
    rw [← htype]
    rcases Operation.find_of_pairwise hsorted hfind hop' hclaim with rfl | hle
    · exact Nat.le_refl _
    · exact hle

end Instruction

namespace Parsed

/-! ## Reading a text of instructions -/

open Instruction

/-- The record of a plain change is read as the change itself. -/
theorem ofChangeRecord_plain (text : String) :
    ofChangeRecord (plainChange text []).toJson = .ok (ofChange (plainChange text [])) := by
  have hcheck : Change.checkText (plainChange text []).toJson = .ok () := by
    show guardThat (!(Json.str text).truthy || true) .wrongType = .ok ()
    rw [Bool.or_true]
    rfl
  have hchange : Change.ofRecord (plainChange text []).toJson = plainChange text [] := rfl
  rw [ofChangeRecord, hcheck, hchange]
  rfl

/-- A plain change says what its description says. -/
theorem text_plainChange (text : String) : (plainChange text []).text = text.toList := by
  show joinWith [' '] ((if (text != "") = true then [text.toList] else []) ++ [] ++ []) = text.toList
  split
  next => rfl
  next hempty =>
    have heq : text = "" := by simpa using hempty
    subst heq
    rfl

/-- **Instructions are answered.** A text of plain instructions is read, and each instruction that ends
in a point, a comma or the end of the text is answered by an operation. -/
theorem ofChangeRecord_answers (parts : List (Instruction × Stop)) (last : Instruction)
    (hplain : ∀ instruction ∈ parts.map Prod.fst ++ [last], instruction.IsPlain) :
    ∃ parsed, ofChangeRecord (plainChange (String.ofList (written parts last)) []).toJson = .ok parsed ∧
      ∀ instruction ∈ ended parts last, ∃ op ∈ parsed.operations,
        Answers (ended parts last) instruction op := by
  refine ⟨_, ofChangeRecord_plain _, fun instruction hended => ?_⟩
  show ∃ op ∈ Operation.inText (plainChange _ []).text, _
  rw [text_plainChange, String.toList_ofList]
  exact exists_answer hplain hended

/-- An addition, a modification, a deletion and a migration; the deletion is about what is added. -/
def errands : List (Instruction × Stop) :=
  [(⟨.delete, "Remove".toList, ["ORDER".toList, "list".toList]⟩, .comma),
    (⟨.modify, "fix".toList, ["login".toList, "page".toList]⟩, .lineBreak),
    (⟨.add, "ADD".toList, ["order".toList, "list".toList]⟩, .point)]

theorem ofChangeRecord_answers_errands :
    let last : Instruction := ⟨.migrate, "upgrade".toList, ["db2".toList]⟩
    String.ofList (written errands last) =
      "Remove ORDER list, fix login page\nADD order list. upgrade db2" ∧
    (∀ instruction ∈ errands.map Prod.fst ++ [last], instruction.IsPlain) ∧
    ∃ parsed, ofChangeRecord (plainChange (String.ofList (written errands last)) []).toJson = .ok parsed ∧
      parsed.operations = [⟨.add, "order list", "ADD order list."⟩, ⟨.migrate, "db2", "upgrade db2"⟩] ∧
      ∀ instruction ∈ ended errands last, ∃ op ∈ parsed.operations,
        Answers (ended errands last) instruction op := by
  intro last
  have hplain : ∀ instruction ∈ errands.map Prod.fst ++ [last], instruction.IsPlain := by decide +kernel
  obtain ⟨parsed, hparsed, hanswers⟩ := ofChangeRecord_answers errands last hplain
  refine ⟨by decide +kernel, hplain, parsed, hparsed, ?_, hanswers⟩
  rw [ofChangeRecord_plain, Except.ok.injEq] at hparsed
  rw [← hparsed]
  decide +kernel

/-- An instruction may go without an operation of its type: if another one has its target, or if its
line breaks off. -/
theorem ofChangeRecord_losesInstruction :
    let adding : Instruction := ⟨.add, "add".toList, ["order".toList, "list".toList]⟩
    let removing : Instruction := ⟨.delete, "remove".toList, ["order".toList, "list".toList]⟩
    let fixing : Instruction := ⟨.modify, "fix".toList, ["login".toList, "page".toList]⟩
    (adding.IsPlain ∧ removing.IsPlain ∧ fixing.IsPlain) ∧
    (String.ofList (written [(adding, .comma)] removing) = "add order list, remove order list" ∧
      ∃ parsed, ofChangeRecord (plainChange "add order list, remove order list" []).toJson = .ok parsed ∧
        ¬ ∃ op ∈ parsed.operations, op.type = removing.type ∧ lower op.target = removing.key) ∧
    String.ofList (written [(fixing, .lineBreak)] adding) = "fix login page\nadd order list" ∧
      ∃ parsed, ofChangeRecord (plainChange "fix login page\nadd order list" []).toJson = .ok parsed ∧
        ¬ ∃ op ∈ parsed.operations, op.type = fixing.type ∧ lower op.target = fixing.key := by
  refine ⟨by decide +kernel, ⟨by decide +kernel, _, ofChangeRecord_plain _, ?_⟩, by decide +kernel, _,
    ofChangeRecord_plain _, ?_⟩ <;> decide +kernel

end Parsed

end ChangeImpact
