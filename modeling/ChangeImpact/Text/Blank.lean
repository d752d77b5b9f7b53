/-!
# White space

Which characters count as blank, how a text is trimmed of them at its ends and
how it falls apart into words at them.  The set is the Unicode one together with
the four separators `U+001C`–`U+001F`; `Char.isWhitespace` is a small part of it.

Everything is a function on the list of characters; `trim` and `words` on
`String` are the same functions seen from outside.
-/

namespace ChangeImpact.Text

/-- The white-space characters. -/
def isBlank (c : Char) : Bool :=
  let n := c.toNat
  (0x09 ≤ n && n ≤ 0x0d) || (0x1c ≤ n && n ≤ 0x20) || n == 0x85 || n == 0xa0 ||
  n == 0x1680 || (0x2000 ≤ n && n ≤ 0x200a) || n == 0x2028 || n == 0x2029 ||
  n == 0x202f || n == 0x205f || n == 0x3000

/-- The characters after the leading ones that satisfy `p`. -/
def dropStart (p : Char → Bool) (cs : List Char) : List Char := cs.dropWhile p

/-- The characters before the trailing ones that satisfy `p`. -/
def dropEnd (p : Char → Bool) : List Char → List Char
  | [] => []
  | c :: cs =>
    match dropEnd p cs with
    | [] => if p c then [] else [c]
    | rest => c :: rest

/-- The text between its leading and trailing characters that satisfy `p`. -/
def trimBy (p : Char → Bool) (cs : List Char) : List Char := dropEnd p (dropStart p cs)

/-- The text without white space at either end. -/
def trimChars (cs : List Char) : List Char := trimBy isBlank cs

/-- The text without white space at either end. -/
def trim (s : String) : String := String.ofList (trimChars s.toList)

/-- The maximal runs of characters that satisfy `p`, in order. -/
def runs (p : Char → Bool) : List Char → List (List Char)
  | [] => []
  | c :: cs =>
    if p c then
      match cs, runs p cs with
      | d :: _, run :: rest => if p d then (c :: run) :: rest else [c] :: run :: rest
      | _, rest => [c] :: rest
    else runs p cs

/-- The words of a text: its maximal runs of characters that are not blank. -/
def words (cs : List Char) : List (List Char) := runs (fun c => !isBlank c) cs

/-! ## The two trimming functions -/

/-- What `dropEnd` leaves is a leading part of the text. -/
theorem dropEnd_append (p : Char → Bool) (cs : List Char) :
    ∃ tail, dropEnd p cs ++ tail = cs ∧ ∀ c ∈ tail, p c = true := by
  induction cs with
  | nil => exact ⟨[], by simp [dropEnd]⟩
  | cons c cs ih =>
    obtain ⟨tail, happ, htail⟩ := ih
    cases h : dropEnd p cs with
    | nil =>
      rw [h, List.nil_append] at happ
      by_cases hc : p c = true
      · exact ⟨c :: cs, by simp [dropEnd, h, hc], by
          subst happ
          simpa [hc] using htail⟩
      · exact ⟨tail, by simp [dropEnd, h, hc, happ], htail⟩
    | cons d ds =>
      rw [h] at happ
      exact ⟨tail, by simp only [dropEnd, h, List.cons_append] at happ ⊢; rw [happ], htail⟩

end ChangeImpact.Text
