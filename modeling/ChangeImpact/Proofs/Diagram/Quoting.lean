import Mathlib.Data.List.Forall2
import ChangeImpact.Diagram.Mermaid

/-!
# Quoted texts in diagrams

The text of a diagram is made of pieces: characters that stand for themselves, and texts inside
quotation marks. A reader finds the pieces again from left to right (`scan`). Whether it finds those
that were written depends on the texts and on how they are quoted: where a backslash escapes a
quotation mark, a text that ends in one swallows the mark that closes it.

> `scan_pieces`: what was written is found again if all pieces of it survive their quoting (`Keeps`);
> `not_backslash_of_scan`: where a backslash escapes nothing but quotation marks, no text that is found
> ends in one.
-/

namespace ChangeImpact.Diagram

/-- A piece of a text: a character for itself, or a quoted text. -/
inductive Piece where
  | sign (c : Char)
  | text (chars : List Char)
deriving DecidableEq

/-- How texts are quoted. A text ends at the next quotation mark, or at the next one without a backslash
in front of it; then two backslashes may stand for something together, and do not escape anything. -/
inductive Quoting where
  | plain
  | escaped (pair : Option (List Char))

namespace Quoting

/-- Whether a backslash escapes a quotation mark. -/
def escapes : Quoting → Bool
  | .plain => false
  | .escaped _ => true

/-- What two backslashes stand for together. -/
def pair? : Quoting → Option (List Char)
  | .plain => none
  | .escaped pair => pair

/-- A text as it is written between its quotation marks. -/
def written (chars : List Char) : Quoting → List Char
  | .plain => chars
  | .escaped _ => Text.replaceChar '"' ['\\', '"'] chars

end Quoting

/-- Where a reader is: outside of texts, inside one, or inside one behind a backslash, with what it has
read of the text. -/
inductive Place where
  | outside
  | inside (read : List Char)
  | escape (read : List Char)

/-- The pieces of a text; `none` if a quoted text does not end. -/
def scan (quoting : Quoting) : Place → List Char → Option (List Piece)
  | .outside, [] => some []
  | .inside _, [] | .escape _, [] => none
  | .outside, c :: cs =>
    if c = '"' then scan quoting (.inside []) cs else (scan quoting .outside cs).map (.sign c :: ·)
  | .inside read, c :: cs =>
    if c = '"' then (scan quoting .outside cs).map (.text read :: ·)
    else if c = '\\' ∧ quoting.escapes = true then scan quoting (.escape read) cs
    else scan quoting (.inside (read ++ [c])) cs
  | .escape read, c :: cs =>
    if c = '"' then scan quoting (.inside (read ++ ['"'])) cs
    else if c = '\\' then
      match quoting.pair? with
      | some pair => scan quoting (.inside (read ++ pair)) cs
      | none => scan quoting (.escape (read ++ ['\\'])) cs
    else scan quoting (.inside (read ++ ['\\', c])) cs

/-- A text stands in another one as it is. -/
@[simp] theorem toList_toString (text : String) : (toString text).toList = text.toList := rfl

namespace Piece

/-- A piece as it is written. -/
def write (quoting : Quoting) : Piece → List Char
  | .sign c => [c]
  | .text chars => '"' :: (quoting.written chars ++ ['"'])

/-- The pieces of a text without quotation marks. -/
def signs (text : String) : List Piece := text.toList.map .sign

/-- Single characters are written as they are. -/
theorem flatMap_write_map (quoting : Quoting) (chars : List Char) :
    (chars.map sign).flatMap (write quoting) = chars := by
  rw [List.flatMap_map]
  exact List.flatMap_singleton' _

theorem flatMap_write_signs (quoting : Quoting) (text : String) :
    (signs text).flatMap (write quoting) = text.toList := flatMap_write_map quoting _

end Piece

/-- Two backslashes are not read together, or none stands before another one or before a quotation mark,
which is written with one of its own. -/
def NoPairs (pair : Option (List Char)) (chars : List Char) : Prop :=
  pair = none ∨ ¬ ['\\', '\\'] <:+: chars ∧ ¬ ['\\', '"'] <:+: chars

/-- The piece is found again as it was written. To escape the quotation marks of a text is not enough if
it ends in a backslash, or if backslashes are read together. -/
def Quoting.Keeps : Quoting → Piece → Prop
  | _, .sign c => c ≠ '"'
  | .plain, .text chars => '"' ∉ chars
  | .escaped pair, .text chars => chars.getLast? ≠ some '\\' ∧ NoPairs pair chars

/-! ## One character -/

section Steps

variable {quoting : Quoting} {pair : Option (List Char)} {read cs : List Char} {c : Char}

/-- A quotation mark begins a text. -/
theorem scan_mark : scan quoting .outside ('"' :: cs) = scan quoting (.inside []) cs := by
  rw [scan, if_pos rfl]

/-- Outside of texts every other character stands for itself. -/
theorem scan_sign (h : c ≠ '"') :
    scan quoting .outside (c :: cs) = (scan quoting .outside cs).map (.sign c :: ·) := by
  rw [scan, if_neg h]

/-- Inside of a text the next quotation mark ends it. -/
theorem scan_close : scan quoting (.inside read) ('"' :: cs) =
    (scan quoting .outside cs).map (.text read :: ·) := by
  rw [scan, if_pos rfl]

/-- Any other character belongs to the text, unless it is a backslash that escapes. -/
theorem scan_inside (hmark : c ≠ '"') (hback : c ≠ '\\' ∨ quoting.escapes = false) :
    scan quoting (.inside read) (c :: cs) = scan quoting (.inside (read ++ [c])) cs := by
  have hnot : ¬ (c = '\\' ∧ quoting.escapes = true) := by
    intro hgiven
    obtain ⟨hc, hescapes⟩ := hgiven
    rcases hback with hback | hplain
    · exact hback hc
    · rw [hplain] at hescapes
      cases hescapes
  rw [scan, if_neg hmark, if_neg hnot]

/-- A backslash that escapes waits for the character behind it. -/
theorem scan_backslash : scan (.escaped pair) (.inside read) ('\\' :: cs) =
    scan (.escaped pair) (.escape read) cs := by
  rw [scan, if_neg (by decide), if_pos ⟨rfl, rfl⟩]

/-- Before a quotation mark that backslash is dropped. -/
theorem scan_escaped_mark : scan quoting (.escape read) ('"' :: cs) =
    scan quoting (.inside (read ++ ['"'])) cs := by
  rw [scan, if_pos rfl]

/-- So it is before a backslash, where a pair of them is read as one. -/
theorem scan_escaped_backslash : scan (.escaped none) (.escape read) ('\\' :: cs) =
    scan (.escaped none) (.escape (read ++ ['\\'])) cs := by
  rw [scan, if_neg (by decide), if_pos rfl]
  rfl

/-- Before any other character it stays. -/
theorem scan_escaped_other (hmark : c ≠ '"') (hback : c ≠ '\\') :
    scan quoting (.escape read) (c :: cs) = scan quoting (.inside (read ++ ['\\', c])) cs := by
  rw [scan, if_neg hmark, if_neg hback]

end Steps

/-! ## One text -/

/-- Where nothing is escaped a text goes up to the next quotation mark. -/
theorem scan_plain {chars : List Char} (h : '"' ∉ chars) (read rest : List Char) :
    scan .plain (.inside read) (chars ++ '"' :: rest) =
      (scan .plain .outside rest).map (.text (read ++ chars) :: ·) := by
  induction chars generalizing read with
  | nil => rw [List.nil_append, List.append_nil, scan_close]
  | cons c chars ih =>
    rw [List.mem_cons, not_or] at h
    rw [List.cons_append, scan_inside (Ne.symm h.1) (Or.inr rfl), ih h.2, List.append_assoc,
      List.singleton_append]

section Escaped

variable {pair : Option (List Char)}

/-- The text may stand behind a backslash. -/
def MayFollow (pair : Option (List Char)) (chars : List Char) : Prop :=
  chars ≠ [] ∧ (pair = none ∨ chars.head? ≠ some '\\' ∧ chars.head? ≠ some '"')

/-- What has no pairs has none in its rest. -/
theorem NoPairs.tail {c : Char} {chars : List Char} (h : NoPairs pair (c :: chars)) :
    NoPairs pair chars := by
  have htail : chars <:+: c :: chars := (List.suffix_cons c chars).isInfix
  exact h.imp_right fun hnot => ⟨fun hin => hnot.1 (hin.trans htail), fun hin => hnot.2 (hin.trans htail)⟩

/-- A backslash that does not end a text may be followed by what follows it there. -/
theorem NoPairs.mayFollow {chars : List Char} (h : NoPairs pair ('\\' :: chars))
    (hend : ('\\' :: chars).getLast? ≠ some '\\') : MayFollow pair chars := by
  refine ⟨fun hnil => hend (by rw [hnil]; rfl), h.imp_right fun hnot => ?_⟩
  have hstart : ∀ d, chars.head? = some d → ['\\', d] <:+: '\\' :: chars := by
    intro d hd
    obtain ⟨more, rfl⟩ := List.head?_eq_some_iff.mp hd
    exact (List.prefix_append ['\\', d] more).isInfix
  exact ⟨fun hhead => hnot.1 (hstart _ hhead), fun hhead => hnot.2 (hstart _ hhead)⟩

/-- Escaping puts a backslash before a quotation mark. -/
theorem replaceChar_mark (chars rest : List Char) :
    Text.replaceChar '"' ['\\', '"'] ('"' :: chars) ++ rest =
      '\\' :: '"' :: (Text.replaceChar '"' ['\\', '"'] chars ++ rest) := rfl

/-- It leaves every other character as it is. -/
theorem replaceChar_other {c : Char} (h : c ≠ '"') (chars rest : List Char) :
    Text.replaceChar '"' ['\\', '"'] (c :: chars) ++ rest =
      c :: (Text.replaceChar '"' ['\\', '"'] chars ++ rest) := by
  unfold Text.replaceChar
  rw [List.flatMap_cons, if_neg (by simpa using h)]
  rfl

/-- A text is read to its end, from its beginning or from behind a backslash that belongs to it. -/
theorem scan_escaped {chars : List Char} (hend : chars.getLast? ≠ some '\\')
    (hpairs : NoPairs pair chars) (rest : List Char) :
    (∀ read, scan (.escaped pair) (.inside read)
        (Text.replaceChar '"' ['\\', '"'] chars ++ '"' :: rest) =
      (scan (.escaped pair) .outside rest).map (.text (read ++ chars) :: ·)) ∧
    (MayFollow pair chars → ∀ read, scan (.escaped pair) (.escape read)
        (Text.replaceChar '"' ['\\', '"'] chars ++ '"' :: rest) =
      (scan (.escaped pair) .outside rest).map (.text (read ++ '\\' :: chars) :: ·)) := by
  induction chars with
  | nil =>
    refine ⟨fun read => ?_, fun h => absurd rfl h.1⟩
    rw [List.append_nil]
    exact scan_close
  | cons c chars ih =>
    have hlast : chars.getLast? ≠ some '\\' := by
      intro hlast
      rw [List.getLast?_cons, hlast] at hend
      exact hend rfl
    obtain ⟨hinside, hescape⟩ := ih hlast hpairs.tail
    -- a quotation mark brings a backslash of its own, which must not be read with the one before
    by_cases hmark : c = '"'
    · subst hmark
      rw [replaceChar_mark]
      refine ⟨fun read => ?_, fun hfollow read => ?_⟩
      · rw [scan_backslash, scan_escaped_mark, hinside, List.append_assoc, List.singleton_append]
      · obtain rfl : pair = none := hfollow.2.resolve_right fun hhead => hhead.2 rfl
        rw [scan_escaped_backslash, scan_escaped_mark, hinside, List.append_assoc, List.append_assoc]
        rfl
    · rw [replaceChar_other hmark]
      by_cases hback : c = '\\'
      · subst hback
        have hnext := hescape (hpairs.mayFollow hend)
        refine ⟨fun read => ?_, fun hfollow read => ?_⟩
        · rw [scan_backslash, hnext]
        · obtain rfl : pair = none := hfollow.2.resolve_right fun hhead => hhead.1 rfl
          rw [scan_escaped_backslash, hnext, List.append_assoc, List.singleton_append]
      · refine ⟨fun read => ?_, fun _ read => ?_⟩
        · rw [scan_inside hmark (Or.inl hback), hinside, List.append_assoc, List.singleton_append]
        · rw [scan_escaped_other hmark hback, hinside, List.append_assoc]
          rfl

end Escaped

/-! ## All pieces -/

variable {quoting : Quoting}

/-- What reads back does so in front of anything. -/
theorem scan_write {piece : Piece} (h : quoting.Keeps piece) (rest : List Char) :
    scan quoting .outside (piece.write quoting ++ rest) =
      (scan quoting .outside rest).map (piece :: ·) := by
  cases piece with
  | sign c =>
    have hc : c ≠ '"' := by cases quoting <;> exact h
    exact scan_sign hc
  | text chars =>
    have hopen : scan quoting .outside (Piece.write quoting (.text chars) ++ rest) =
        scan quoting (.inside []) (quoting.written chars ++ '"' :: rest) := by
      show scan quoting .outside ('"' :: ((quoting.written chars ++ ['"']) ++ rest)) = _
      rw [scan_mark, List.append_assoc, List.singleton_append]
    rw [hopen]
    cases quoting with
    | plain => exact scan_plain h [] rest
    | escaped pair => exact (scan_escaped h.1 h.2 rest).1 []

/-- **What was written is found again.** -/
theorem scan_pieces {pieces : List Piece} (h : ∀ piece ∈ pieces, quoting.Keeps piece) :
    scan quoting .outside (pieces.flatMap (Piece.write quoting)) = some pieces := by
  induction pieces with
  | nil => rfl
  | cons piece rest ih =>
    obtain ⟨hpiece, hrest⟩ := List.forall_mem_cons.mp h
    rw [List.flatMap_cons, scan_write hpiece, ih hrest]
    rfl

/-- What a reader has read of a text does not end in a backslash, where the text may end. -/
def Place.Calm : Place → Prop
  | .inside read => read.getLast? ≠ some '\\'
  | .outside | .escape _ => True

/-- Behind any other character no backslash waits. -/
theorem Place.calm_concat {read : List Char} {c : Char} (h : c ≠ '\\') :
    Calm (.inside (read ++ [c])) := by
  show (read ++ [c]).getLast? ≠ some '\\'
  rw [List.getLast?_concat]
  exact fun heq => h (Option.some.inj heq)

/-- **No text that is found ends in a backslash** where it escapes nothing but quotation marks. -/
theorem not_backslash_of_scan {place : Place} {cs : List Char} {pieces : List Piece}
    (hcalm : place.Calm) (h : scan (.escaped none) place cs = some pieces) {chars : List Char}
    (hchars : .text chars ∈ pieces) : chars.getLast? ≠ some '\\' := by
  have houtside : Place.Calm .outside := trivial
  have hstart : Place.Calm (.inside []) := nofun
  have hescape : ∀ read, Place.Calm (.escape read) := fun _ => trivial
  -- calmness is the invariant: no text that is being read ends in a backslash at which it could end
  induction cs generalizing place pieces with
  | nil =>
    cases place with
    | outside =>
      cases h
      cases hchars
    | inside read => cases h
    | escape read => cases h
  | cons c cs ih =>
    unfold scan at h
    cases place with
    | outside =>
      dsimp only at h
      split at h
      next => exact ih hstart h hchars
      next =>
        obtain ⟨rest, hrest, rfl⟩ := Option.map_eq_some_iff.mp h
        rcases List.mem_cons.mp hchars with heq | hmem
        · cases heq
        · exact ih houtside hrest hmem
    | inside read =>
      dsimp only at h
      split at h
      next =>
        obtain ⟨rest, hrest, rfl⟩ := Option.map_eq_some_iff.mp h
        rcases List.mem_cons.mp hchars with heq | hmem
        · cases heq
          exact hcalm
        · exact ih houtside hrest hmem
      next =>
        split at h
        next => exact ih (hescape read) h hchars
        next hback => exact ih (Place.calm_concat fun heq => hback ⟨heq, rfl⟩) h hchars
    | escape read =>
      dsimp only at h
      split at h
      next => exact ih (Place.calm_concat (by decide)) h hchars
      next =>
        split at h
        next => exact ih (hescape _) h hchars
        next hback =>
          rw [List.append_cons] at h
          exact ih (Place.calm_concat hback) h hchars

/-! ## Pieces in rows -/

section Rows

variable {α β : Type}

theorem flatMap_intercalate (f : α → List β) (sep : List α) (rows : List (List α)) :
    (sep.intercalate rows).flatMap f = (sep.flatMap f).intercalate (rows.map (List.flatMap f)) := by
  match rows with
  | [] => rfl
  | [row] => simp
  | row :: next :: rest =>
    rw [List.intercalate_cons_cons, List.flatMap_append, List.flatMap_append,
      flatMap_intercalate f sep (next :: rest)]
    exact List.intercalate_cons_cons.symm

theorem filter_intercalate (p : α → Bool) (sep : List α) (rows : List (List α)) :
    (sep.intercalate rows).filter p = (sep.filter p).intercalate (rows.map (List.filter p)) := by
  match rows with
  | [] => rfl
  | [row] => simp
  | row :: next :: rest =>
    rw [List.intercalate_cons_cons, List.filter_append, List.filter_append,
      filter_intercalate p sep (next :: rest)]
    exact List.intercalate_cons_cons.symm

/-- Nothing between the rows leaves them one after the other. -/
theorem nil_intercalate (rows : List (List α)) : [].intercalate rows = rows.flatten := by
  match rows with
  | [] => rfl
  | [row] => simp
  | row :: next :: rest =>
    rw [List.intercalate_cons_cons, nil_intercalate (next :: rest), List.append_nil]
    rfl

/-- What is joined is the first row and all others behind separators. -/
theorem intercalate_cons_eq (sep row : List α) (rows : List (List α)) :
    sep.intercalate (row :: rows) = row ++ rows.flatMap fun other => sep ++ other := by
  induction rows generalizing row with
  | nil => simp
  | cons next rest ih =>
    rw [List.intercalate_cons_cons, ih, List.flatMap_cons, List.append_assoc, List.append_assoc]

/-- Rows that each begin with a separator are found again, with nothing before the first one. -/
theorem splitOn_flatMap_cons [BEq α] [LawfulBEq α] {sep : α} {rows : List (List α)}
    (h : ∀ row ∈ rows, sep ∉ row) : (rows.flatMap fun row => sep :: row).splitOn sep = [] :: rows := by
  have hjoined : (rows.flatMap fun row => sep :: row) = [sep].intercalate ([] :: rows) :=
    (intercalate_cons_eq [sep] [] rows).symm
  rw [hjoined]
  refine List.splitOn_intercalate sep ?_ (List.cons_ne_nil _ _)
  exact List.forall_mem_cons.mpr ⟨List.not_mem_nil, h⟩

/-- Rows that each end in a separator are found again, with nothing behind the last one. -/
theorem splitOn_flatMap_concat [BEq α] [LawfulBEq α] {sep : α} {rows : List (List α)}
    (h : ∀ row ∈ rows, sep ∉ row) : (rows.flatMap fun row => row ++ [sep]).splitOn sep = rows ++ [[]] := by
  have hjoined : (rows.flatMap fun row => row ++ [sep]) = [sep].intercalate (rows ++ [[]]) := by
    clear h
    induction rows with
    | nil => rfl
    | cons row rest ih =>
      rw [List.flatMap_cons, ih]
      cases rest <;> simp [List.intercalate_cons_cons]
  rw [hjoined]
  refine List.splitOn_intercalate sep ?_ (by simp)
  exact List.forall_mem_append.mpr ⟨h, List.forall_mem_singleton.mpr List.not_mem_nil⟩

/-- Readings of all rows are what each of them is read as. -/
theorem mapM_eq_some {f : α → Option β} {as : List α} {bs : List β} :
    as.mapM f = some bs ↔ List.Forall₂ (fun a b => f a = some b) as bs := by
  induction as generalizing bs with
  | nil => simp [eq_comm]
  | cons a as ih =>
    rw [List.mapM_cons, Option.bind_eq_bind, Option.bind_eq_some_iff]
    constructor
    · intro hgiven
      obtain ⟨b, hb, h⟩ := hgiven
      obtain ⟨rest, hrest, h⟩ := Option.bind_eq_some_iff.mp h
      cases h
      exact .cons hb (ih.mp hrest)
    · intro hgiven
      rcases hgiven with _ | ⟨hb, hrest⟩
      exact ⟨_, hb, Option.bind_eq_some_iff.mpr ⟨_, ih.mpr hrest, rfl⟩⟩

/-- Rows are read as what they were written for if each of them is. -/
theorem mapM_map_eq {γ : Type} {f : β → Option γ} {as : List α} {g : α → β} {k : α → γ}
    (h : ∀ a ∈ as, f (g a) = some (k a)) : (as.map g).mapM f = some (as.map k) := by
  refine mapM_eq_some.mpr (List.forall₂_map_left_iff.mpr (List.forall₂_map_right_iff.mpr ?_))
  exact List.forall₂_same.mpr h

/-- Rows are read one list after the other. -/
theorem mapM_append_eq {f : α → Option β} {as more : List α} {bs others : List β}
    (h : as.mapM f = some bs) (hmore : more.mapM f = some others) :
    (as ++ more).mapM f = some (bs ++ others) :=
  mapM_eq_some.mpr (List.rel_append (mapM_eq_some.mp h) (mapM_eq_some.mp hmore))

/-- What comes out of a list is read from one of its items. -/
theorem exists_of_mem_mapM {f : α → Option β} {as : List α} {bs : List β} (h : as.mapM f = some bs)
    {b : β} (hb : b ∈ bs) : ∃ a ∈ as, f a = some b := by
  have hall := mapM_eq_some.mp h
  clear h
  induction hall with
  | nil => cases hb
  | cons hfirst _ ih =>
    rcases List.mem_cons.mp hb with rfl | hb
    · exact ⟨_, List.mem_cons_self .., hfirst⟩
    · obtain ⟨a, ha, hf⟩ := ih hb
      exact ⟨a, List.mem_cons_of_mem _ ha, hf⟩

/-- Whatever holds of what is joined and of the separator holds of all that is put together. -/
theorem forall_mem_intercalate {p : α → Prop} {sep : List α} {rows : List (List α)}
    (hsep : ∀ a ∈ sep, p a) (hrows : ∀ row ∈ rows, ∀ a ∈ row, p a) :
    ∀ a ∈ sep.intercalate rows, p a := by
  match rows with
  | [] => exact fun a ha => nomatch ha
  | [row] =>
    rw [List.intercalate_singleton]
    exact hrows row (List.mem_singleton_self row)
  | row :: next :: rest =>
    obtain ⟨hrow, hothers⟩ := List.forall_mem_cons.mp hrows
    rw [List.intercalate_cons_cons]
    exact List.forall_mem_append.mpr ⟨List.forall_mem_append.mpr ⟨hrow, hsep⟩,
      forall_mem_intercalate hsep hothers⟩

theorem mem_intercalate {sep : List α} {rows : List (List α)} {row : List α} {a : α}
    (hrow : row ∈ rows) (ha : a ∈ row) : a ∈ sep.intercalate rows := by
  match rows with
  | [] => cases hrow
  | [only] =>
    obtain rfl := List.mem_singleton.mp hrow
    rwa [List.intercalate_singleton]
  | first :: next :: rest =>
    rw [List.intercalate_cons_cons]
    rcases List.mem_cons.mp hrow with rfl | hrow
    · exact List.mem_append_left _ (List.mem_append_left _ ha)
    · exact List.mem_append_right _ (mem_intercalate hrow ha)

/-- What is in a part is in the whole. -/
theorem mem_of_mem_splitOn [BEq α] [LawfulBEq α] {sep a : α} {row whole : List α}
    (hrow : row ∈ whole.splitOn sep) (ha : a ∈ row) : a ∈ whole := by
  have hmem : a ∈ [sep].intercalate (whole.splitOn sep) := mem_intercalate hrow ha
  rwa [List.intercalate_splitOn] at hmem

end Rows

end ChangeImpact.Diagram
