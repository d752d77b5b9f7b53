import ChangeImpact.Text.CaseTable
import ChangeImpact.Text.Word

/-!
# Letter case

`lowerChars` is the full lower-case form of a text.  Three characters make it more
than a map: `İ` becomes two characters, and `Σ` becomes `ς` at the end of a word
and `σ` elsewhere, where neighbours that carry no case (an apostrophe, an accent)
are looked through.  On ASCII text it is the familiar map, `lowerChars_ascii`.
-/

namespace ChangeImpact.Text

/-- Whether a code point is one of those that a stepped span visits. -/
def inSteps (first last step n : Nat) : Bool :=
  first ≤ n && n ≤ last && (n - first) % step == 0

/-- An upper-case character of any script. -/
def isUpper (c : Char) : Bool :=
  if c.toNat < 0x80 then isAsciiUpper c
  else upperSpans.any fun (first, last, step) => inSteps first last step c.toNat

/-- A character that makes a following sigma the last letter of a word. -/
def isCased (c : Char) : Bool :=
  if c.toNat < 0x80 then isAsciiUpper c || isAsciiLower c else inSpans casedSpans c.toNat

/-- A character that is looked through on the way to a sigma's neighbours. -/
def isCaseIgnorable (c : Char) : Bool :=
  if c.toNat < 0x80 then ['\'', '.', ':', '^', '`'].contains c
  else inSpans caseIgnorableSpans c.toNat

/-- The lower-case form of a character that does not depend on its neighbours. -/
def lowerChar (c : Char) : Char :=
  if c.toNat < 0x80 then c.toLower
  else
    match lowerShifts.find? fun (first, last, step, _) => inSteps first last step c.toNat with
    | some (_, _, _, shift) => Char.ofNat (c.toNat + shift).toNat
    | none => c

/-- Whether the first character that is not looked through is cased. -/
def startsCased (cs : List Char) : Bool :=
  match cs.dropWhile isCaseIgnorable with
  | [] => false
  | c :: _ => isCased c

/-- Lower-cases a text that follows a cased character exactly when `afterCased`. -/
def lowerFrom (afterCased : Bool) : List Char → List Char
  | [] => []
  | c :: cs =>
    let afterThis := if isCaseIgnorable c then afterCased else isCased c
    if c == 'Σ' then
      (if afterCased && !startsCased cs then 'ς' else 'σ') :: lowerFrom afterThis cs
    else if c == 'İ' then 'i' :: '\u0307' :: lowerFrom afterThis cs
    else lowerChar c :: lowerFrom afterThis cs

/-- The lower-case form of a text. -/
def lowerChars (cs : List Char) : List Char := lowerFrom false cs

/-- The lower-case form of a text. -/
def lower (s : String) : String := String.ofList (lowerChars s.toList)

/-- Whether a character matches an ASCII lower-case letter when case is ignored: it is
the letter in either case, or one of the four foreign characters that fold to one. -/
def matchesLetter (letter c : Char) : Bool :=
  c == letter || (c.toNat < 0x80 && c.toLower == letter) ||
  (letter == 'i' && (c == 'İ' || c == 'ı')) || (letter == 's' && c == 'ſ') ||
  (letter == 'k' && c == '\u212a')

/-! ## ASCII text -/

/-- ASCII characters are lower-cased one by one, whatever follows them. -/
theorem exists_lowerFrom_append (afterCased : Bool) {cs : List Char}
    (h : ∀ c ∈ cs, c.toNat < 0x80) (rest : List Char) :
    ∃ after, lowerFrom afterCased (cs ++ rest) = cs.map Char.toLower ++ lowerFrom after rest := by
  induction cs generalizing afterCased with
  | nil => exact ⟨afterCased, rfl⟩
  | cons c cs ih =>
    have hc : c.toNat < 0x80 := h c List.mem_cons_self
    have hsigma : (c == 'Σ') = false := by
      rw [beq_eq_false_iff_ne]
      intro heq
      rw [heq] at hc
      exact absurd hc (by decide)
    have hdotted : (c == 'İ') = false := by
      rw [beq_eq_false_iff_ne]
      intro heq
      rw [heq] at hc
      exact absurd hc (by decide)
    obtain ⟨after, hafter⟩ := ih (if isCaseIgnorable c then afterCased else isCased c)
      fun d hd => h d (List.mem_cons_of_mem _ hd)
    refine ⟨after, ?_⟩
    simp only [List.cons_append, lowerFrom, hsigma, hdotted, Bool.false_eq_true, if_false, lowerChar,
      if_pos hc, List.map_cons, hafter]

theorem lowerFrom_ascii (afterCased : Bool) {cs : List Char} (h : ∀ c ∈ cs, c.toNat < 0x80) :
    lowerFrom afterCased cs = cs.map Char.toLower := by
  obtain ⟨after, hafter⟩ := exists_lowerFrom_append afterCased h []
  rw [List.append_nil] at hafter
  rw [hafter, lowerFrom, List.append_nil]

/-- On ASCII text lower-casing is the map on single characters. -/
theorem lowerChars_ascii {cs : List Char} (h : ∀ c ∈ cs, c.toNat < 0x80) :
    lowerChars cs = cs.map Char.toLower :=
  lowerFrom_ascii false h

end ChangeImpact.Text
