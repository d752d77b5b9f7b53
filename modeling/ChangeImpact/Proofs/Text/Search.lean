import Mathlib.Data.List.Infix
import ChangeImpact.Text.Search

/-!
# Looking for a piece

The search looks at every place of the text: a piece is found at the start of a text if the text starts
with it (`startsWith_iff`), and anywhere if it is a part of the text (`containsChars_iff`).
-/

namespace ChangeImpact.Text

theorem startsWith_iff {piece cs : List Char} : startsWith piece cs = true ↔ piece <+: cs := by
  unfold startsWith
  induction piece generalizing cs with
  | nil => simp [afterStart?]
  | cons p piece ih =>
    cases cs with
    | nil => simp [afterStart?]
    | cons c cs =>
      rw [List.cons_prefix_cons]
      unfold afterStart?
      split
      next heq => rw [ih, and_iff_right (beq_iff_eq.mp heq)]
      next hne => simp [beq_iff_eq.not.mp hne]

theorem containsChars_iff {piece cs : List Char} : containsChars piece cs = true ↔ piece <:+: cs := by
  induction cs with
  | nil => simp [containsChars]
  | cons c cs ih => rw [containsChars, Bool.or_eq_true, startsWith_iff, ih, List.infix_cons_iff]

end ChangeImpact.Text
