import Mathlib.Data.List.Infix
import Mathlib.Data.List.TakeWhile
import ChangeImpact.Proofs.Distinct
import ChangeImpact.Proofs.Reference.Mentions
import ChangeImpact.Proofs.Text.Trimming

/-!
# Writing and reading mentions

A mention is written between two opening and two closing brackets, and a text may hold any number of
mentions with other words around them. Reading such a text gives back what was written into it:

> `inText_invertsWriting`: what a text mentions can be written as a mention, each entity once; and of a
> text that is woven from mentions and fillers, where no filler has two opening brackets in a row,
> exactly the mentions are found, in order and each once.

An id may hold colons, blanks, line breaks and opening brackets, even two of them. They do no harm
because the search goes on behind a mention once it has found one. A filler that ends in a bracket makes
three of them in a row, where no mention starts: the third one is no part of a type.
-/

namespace ChangeImpact

/-! ## Entities that can be mentioned -/

namespace EntityKey

/-- The entity can be mentioned: its type is known, and its id is not empty, has no closing bracket and
no white space at either end. -/
structure IsMentionable (key : EntityKey) : Prop where
  type : key.type ∈ entityTypes
  nonempty : key.id ≠ ""
  unclosed : ']' ∉ key.id.toList
  trimmed : Text.Trimmed key.id.toList

instance (key : EntityKey) : Decidable key.IsMentionable :=
  decidable_of_iff
    (key.type ∈ entityTypes ∧ key.id ≠ "" ∧ ']' ∉ key.id.toList ∧ Text.Trimmed key.id.toList)
    ⟨fun ⟨htype, hne, hclosed, htrimmed⟩ => ⟨htype, hne, hclosed, htrimmed⟩,
      fun h => ⟨h.type, h.nonempty, h.unclosed, h.trimmed⟩⟩

/-- How an entity is mentioned. -/
def written (key : EntityKey) : String := "[[" ++ key.type ++ ":" ++ key.id ++ "]]"

theorem written_toList (key : EntityKey) : key.written.toList =
    '[' :: '[' :: (key.type.toList ++ ':' :: (key.id.toList ++ [']', ']'])) := by
  simp [written, String.toList_append]

end EntityKey

namespace Mention

open Text

/-- Known types are written in characters of a type. -/
theorem isTypeChar_of_entityType {type : String} (h : type ∈ entityTypes) :
    type.toList ≠ [] ∧ ∀ c ∈ type.toList, isTypeChar c = true := by
  have hall : ∀ type ∈ entityTypes, type.toList ≠ [] ∧ type.toList.all isTypeChar = true := by
    decide +kernel
  obtain ⟨hne, hchars⟩ := hall type h
  exact ⟨hne, List.all_eq_true.mp hchars⟩

theorem isBlank_of_isTypeChar {c : Char} (h : isTypeChar c = true) : isBlank c = false := by
  have hcode : c.toNat = 95 ∨ 97 ≤ c.toNat ∧ c.toNat ≤ 122 := by
    unfold isTypeChar isAsciiLower at h
    rw [Bool.or_eq_true, Bool.and_eq_true, decide_eq_true_iff, decide_eq_true_iff, beq_iff_eq] at h
    rcases h with ⟨hlow, hhigh⟩ | rfl
    · exact Or.inr ⟨hlow, hhigh⟩
    · exact Or.inl rfl
  simp only [isBlank, Bool.or_eq_false_iff, Bool.and_eq_false_iff, decide_eq_false_iff_not,
    beq_eq_false_iff_ne]
  omega

theorem idOf_written {id : List Char} (hne : id ≠ []) (hclosed : ']' ∉ id) (htrimmed : Trimmed id)
    (rest : List Char) : idOf? (id ++ ']' :: ']' :: rest) = some (id, rest) := by
  have hid : ∀ c ∈ id, (c != ']') = true := by
    intro c hc
    exact bne_iff_ne.mpr fun heq => hclosed (heq ▸ hc)
  unfold idOf?
  rw [List.dropWhile_append_of_pos hid, List.takeWhile_append_of_pos hid,
    List.dropWhile_cons_of_neg (by decide), List.takeWhile_cons_of_neg (by decide), List.append_nil,
    htrimmed.trimChars_eq]
  cases id with
  | nil => exact absurd rfl hne
  | cons c id => rfl

/-- What is found behind two brackets, a type and a colon is the id. -/
theorem mention_brackets {type : List Char} (hne : type ≠ []) (htype : ∀ c ∈ type, isTypeChar c = true)
    (before : Option Char) (inside : List Char) :
    mention before ('[' :: '[' :: (type ++ ':' :: inside)) = (idOf? inside).map fun (id, after) =>
      (⟨String.ofList type, String.ofList id⟩,
        ('[' :: '[' :: (type ++ ':' :: inside)).length - after.length) := by
  cases type with
  | nil => exact absurd rfl hne
  | cons c cs =>
    have hblank := isBlank_of_isTypeChar (htype c (List.mem_cons_self ..))
    have hstart : (c :: cs ++ ':' :: inside).dropWhile isBlank = c :: cs ++ ':' :: inside := by
      rw [List.cons_append, List.dropWhile_cons_of_neg (by rw [hblank]; exact Bool.false_ne_true)]
    have htake : (c :: cs ++ ':' :: inside).takeWhile isTypeChar = c :: cs := by
      rw [List.takeWhile_append_of_pos htype, List.takeWhile_cons_of_neg (by decide), List.append_nil]
    have hcolon : (':' :: inside).dropWhile isBlank = ':' :: inside :=
      List.dropWhile_cons_of_neg (by decide)
    simp only [mention, hstart, htake, List.drop_left, hcolon]

/-- A mention is found where it is written. -/
theorem mention_written {key : EntityKey} (h : key.IsMentionable) (before : Option Char)
    (rest : List Char) :
    mention before (key.written.toList ++ rest) = some (key, key.written.toList.length) := by
  obtain ⟨hne, htype⟩ := isTypeChar_of_entityType h.type
  have hid : key.id.toList ≠ [] := fun heq => h.nonempty (String.toList_eq_nil_iff.mp heq)
  have htext : key.written.toList ++ rest =
      '[' :: '[' :: (key.type.toList ++ ':' :: (key.id.toList ++ ']' :: ']' :: rest)) := by
    rw [EntityKey.written_toList]
    simp
  have hlength : (key.written.toList ++ rest).length - rest.length = key.written.toList.length := by
    rw [List.length_append, Nat.add_sub_cancel]
  rw [htext, mention_brackets hne htype, idOf_written hid h.unclosed h.trimmed, Option.map_some,
    ← htext]
  dsimp only
  rw [hlength, String.ofList_toList, String.ofList_toList]

/-- Behind a bracket that two others follow no mention starts, and none at the end of a text. -/
theorem mention_eq_none_of_third {before : Option Char} {rest : List Char}
    (h : rest = [] ∨ ∃ after, rest = '[' :: '[' :: after) : mention before ('[' :: rest) = none := by
  rcases h with rfl | ⟨after, rfl⟩
  · rfl
  · have hbracket : ('[' :: after).dropWhile isBlank = '[' :: after :=
      List.dropWhile_cons_of_neg (by decide)
    have hnone : ('[' :: after).takeWhile isTypeChar = [] :=
      List.takeWhile_cons_of_neg (by decide)
    simp only [mention, hbracket, hnone]

/-- A mention starts with two brackets. -/
theorem mention_eq_none {before : Option Char} {cs : List Char} (h : ¬ ['[', '['] <+: cs) :
    mention before cs = none := by
  unfold mention
  split
  next rest => exact absurd ⟨rest, rfl⟩ h
  next => rfl

/-- An id has no closing bracket and is trimmed. -/
theorem idOf_spec {cs id after : List Char} (h : idOf? cs = some (id, after)) :
    ']' ∉ id ∧ Trimmed id := by
  unfold idOf? at h
  split at h
  next =>
    split at h
    next => cases h
    next =>
      cases h
      refine ⟨fun hmem => ?_, trimmed_trimChars _⟩
      have hinside := List.mem_takeWhile_imp (trimChars_subset _ hmem)
      exact absurd rfl (bne_iff_ne.mp hinside)
  next => cases h

/-- Whatever a text mentions can be mentioned. -/
theorem isMentionable_of_mem {text : String} {key : EntityKey} (h : key ∈ inText text) :
    key.IsMentionable := by
  obtain ⟨htype, hne⟩ := isProper_of_mem h
  unfold inText inChars at h
  obtain ⟨_, _, _, hmention⟩ :=
    Text.exists_of_mem_findAllFrom (List.mem_filter.mp (List.mem_eraseDups.mp h)).1
  obtain ⟨_, id, _, hid, hkey⟩ := exists_idOf hmention
  obtain ⟨hclosed, htrimmed⟩ := idOf_spec hid
  have hchars : key.id.toList = id := by rw [hkey, String.toList_ofList]
  exact ⟨htype, hne, by rwa [hchars], by rwa [hchars]⟩

/-! ## The search -/

/-- What stands before a place does not matter. -/
theorem findAllFrom_mention (before : Option Char) (skip : Nat) (cs : List Char) :
    findAllFrom mention before skip cs = findAll mention (cs.drop skip) := by
  induction cs generalizing before skip with
  | nil =>
    rw [List.drop_nil]
    cases skip <;> rfl
  | cons c cs ih =>
    cases skip with
    | zero => rfl
    | succ skip => exact ih (some c) skip

theorem findAll_cons_of_none {c : Char} {cs : List Char} (h : mention none (c :: cs) = none) :
    findAll mention (c :: cs) = findAll mention cs := by
  unfold findAll
  rw [findAllFrom, h]
  exact findAllFrom_mention (some c) 0 cs

/-- The search goes on behind a mention. -/
theorem findAll_written {key : EntityKey} (h : key.IsMentionable) (rest : List Char) :
    findAll mention (key.written.toList ++ rest) = key :: findAll mention rest := by
  have hfound := mention_written h none rest
  have hskip : (key.written.toList ++ rest).drop key.written.toList.length = rest :=
    List.drop_left
  rw [key.written_toList] at hfound hskip ⊢
  rw [List.cons_append] at hfound hskip ⊢
  rw [List.length_cons, List.drop_succ_cons] at hskip
  unfold findAll
  rw [findAllFrom, hfound]
  dsimp only
  rw [findAllFrom_mention, List.length_cons, Nat.add_sub_cancel, hskip]
  rfl

/-- Nothing is found in a filler, whether the text ends behind it or goes on with a mention. -/
theorem findAll_filler {filler rest : List Char} (h : ¬ ['[', '['] <:+: filler)
    (hrest : rest = [] ∨ ∃ after, rest = '[' :: '[' :: after) :
    findAll mention (filler ++ rest) = findAll mention rest := by
  induction filler with
  | nil => rfl
  | cons c filler ih =>
    have hlater : ¬ ['[', '['] <:+: filler :=
      fun hpair => h (hpair.trans (List.suffix_cons ..).isInfix)
    have hnone : mention none (c :: (filler ++ rest)) = none := by
      by_cases hstarts : ['[', '['] <+: c :: (filler ++ rest)
      · obtain ⟨rfl, hsecond⟩ := List.cons_prefix_cons.mp hstarts
        cases filler with
        | nil => exact mention_eq_none_of_third hrest
        | cons d filler =>
          obtain ⟨rfl, -⟩ := List.cons_prefix_cons.mp hsecond
          exact absurd ⟨[], filler, rfl⟩ h
      · exact mention_eq_none hstarts
    rw [List.cons_append, findAll_cons_of_none hnone]
    exact ih hlater

/-! ## Texts with mentions -/

/-- The text has no two opening brackets in a row. -/
def Bare (text : String) : Prop := ¬ ['[', '['] <:+: text.toList

instance (text : String) : Decidable (Bare text) := inferInstanceAs (Decidable (¬ _))

/-- A text with mentions, each of them between two fillers. -/
def woven (first : String) : List (EntityKey × String) → String
  | [] => first
  | (key, filler) :: parts => first ++ (key.written ++ woven filler parts)

/-- In a woven text the mentions are found one by one. -/
theorem findAll_woven {first : String} {parts : List (EntityKey × String)} (hfirst : Bare first)
    (hparts : ∀ part ∈ parts, part.1.IsMentionable ∧ Bare part.2) :
    findAll mention (woven first parts).toList = parts.map Prod.fst := by
  induction parts generalizing first with
  | nil =>
    have hfound := findAll_filler hfirst (Or.inl rfl)
    rw [List.append_nil] at hfound
    exact hfound
  | cons part parts ih =>
    obtain ⟨key, filler⟩ := part
    obtain ⟨hkey, hfiller⟩ := hparts (key, filler) (List.mem_cons_self ..)
    have hrest := ih hfiller fun part hpart => hparts part (List.mem_cons_of_mem _ hpart)
    have hopens : ∃ after, key.written.toList ++ (woven filler parts).toList = '[' :: '[' :: after :=
      ⟨_, by rw [EntityKey.written_toList]; rfl⟩
    unfold woven
    rw [String.toList_append, String.toList_append, findAll_filler hfirst (Or.inr hopens),
      findAll_written hkey, hrest, List.map_cons]

/-- **Woven texts are read back.** -/
theorem inText_woven {first : String} {parts : List (EntityKey × String)} (hfirst : Bare first)
    (hparts : ∀ part ∈ parts, part.1.IsMentionable ∧ Bare part.2) :
    inText (woven first parts) = (parts.map Prod.fst).eraseDups := by
  have hknown : (parts.map Prod.fst).filter (fun key => entityTypes.contains key.type) =
      parts.map Prod.fst := by
    refine List.filter_eq_self.mpr fun key hkey => ?_
    obtain ⟨part, hpart, rfl⟩ := List.mem_map.mp hkey
    exact List.contains_iff_mem.mpr (hparts part hpart).1.type
  unfold inText inChars
  rw [findAll_woven hfirst hparts, hknown]

/-- What reading a text does inverts writing: what is read can be written, and what was written between
bare fillers is read back, each entity once. -/
structure InvertsWriting (read : String → List EntityKey) : Prop where
  mentionable : ∀ text, ∀ key ∈ read text, key.IsMentionable
  once : ∀ text, (read text).Nodup
  woven : ∀ first parts, Bare first → (∀ part ∈ parts, part.1.IsMentionable ∧ Bare part.2) →
    read (woven first parts) = (parts.map Prod.fst).eraseDups
  again : ∀ text first parts, parts.map Prod.fst = read text → Bare first →
    (∀ part ∈ parts, Bare part.2) → read (Mention.woven first parts) = read text

/-- **Reading mentions inverts writing them.** -/
theorem inText_invertsWriting : InvertsWriting inText where
  mentionable _ _ := isMentionable_of_mem
  once _ := eraseDupsBy_nodup (fun _ => BEq.rfl) _
  woven _ _ hfirst hparts := inText_woven hfirst hparts
  again text first parts hread hfirst hparts := by
    have hwoven := inText_woven hfirst fun part hpart =>
      ⟨isMentionable_of_mem (hread ▸ List.mem_map_of_mem hpart), hparts part hpart⟩
    rw [hwoven, hread]
    exact eraseDups_eraseDups _

/-- Three mentions of two entities, one of which has brackets, a colon and a line break in its id. -/
def bracketed : List (EntityKey × String) :=
  [(⟨"task", "a: [[b\nc"⟩, "] and ["), (⟨"rule", "R 3"⟩, ""), (⟨"task", "a: [[b\nc"⟩, " ]]")]

theorem inText_invertsWriting_bracketed :
    woven "see [" bracketed = "see [[[task:a: [[b\nc]]] and [[[rule:R 3]][[task:a: [[b\nc]] ]]" ∧
    Bare "see [" ∧ (∀ part ∈ bracketed, part.1.IsMentionable ∧ Bare part.2) ∧
    inText (woven "see [" bracketed) = [⟨"task", "a: [[b\nc"⟩, ⟨"rule", "R 3"⟩] := by
  have hfirst : Bare "see [" := by decide +kernel
  have hparts : ∀ part ∈ bracketed, part.1.IsMentionable ∧ Bare part.2 := by decide +kernel
  refine ⟨by decide +kernel, hfirst, hparts, ?_⟩
  rw [inText_invertsWriting.woven "see [" bracketed hfirst hparts]
  decide +kernel

end Mention

end ChangeImpact
