import ChangeImpact.Text.WordTable

/-!
# Word characters and decimal digits

A word character is a letter, a numeral or the underscore.  Inside ASCII that is
decided by comparison; beyond it by the spans of `WordTable`.
-/

namespace ChangeImpact.Text

/-- Whether a code point lies in one of the spans. -/
def inSpans (spans : List (Nat × Nat)) (n : Nat) : Bool :=
  spans.any fun span => span.1 ≤ n && n ≤ span.2

/-- A letter, numeral or underscore. -/
def isWord (c : Char) : Bool :=
  if c.toNat < 0x80 then c.isAlphanum || c == '_' else inSpans wordSpans c.toNat

/-- A lower-case ASCII letter. -/
def isAsciiLower (c : Char) : Bool := 'a' ≤ c && c ≤ 'z'

/-- An upper-case ASCII letter. -/
def isAsciiUpper (c : Char) : Bool := 'A' ≤ c && c ≤ 'Z'

/-- The value of a decimal digit of any script. -/
def digitValue? (c : Char) : Option Nat :=
  let n := c.toNat
  if n < 0x80 then
    if 0x30 ≤ n && n ≤ 0x39 then some (n - 0x30) else none
  else (digitZeros.find? fun nought => nought ≤ n && n < nought + 10).map (n - ·)

end ChangeImpact.Text
