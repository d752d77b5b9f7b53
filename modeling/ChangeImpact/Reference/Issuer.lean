import ChangeImpact.Decimal.Shortest
import ChangeImpact.Reference.Basic

/-!
# Ids and times of new references

A reference gets an id and the time when it is asked for.  Ids come from a source that never gives one
twice; what an id looks like behind its mark is up to the source.

`Issuer.issue` is the operation `_new_reference`.
-/

namespace ChangeImpact

/-- What the ids of new references consist of, one after the other; no two of them are the same. -/
class IdSource where
  part : Nat → List Char
  injective : ∀ m n, part m = part n → m = n

/-- The source that the program runs with: sixteen digits, zeros in front. -/
instance IdSource.counted : IdSource where
  part n := Decimal.paddedNat 16 n
  injective m n h := by
    -- what padded digits are read as is the number that was written
    have hread : ∀ k, Nat.ofDigitChars 10 (Decimal.paddedNat 16 k) 0 = k := by
      intro k
      unfold Decimal.paddedNat
      dsimp only
      rw [Nat.ofDigitChars_append, Nat.ofDigitChars_replicate_zero, Nat.mul_zero,
        Nat.ofDigitChars_ten_toDigits]
    rw [← hread m, h, hread]

/-- Where new references get their ids and times from: the number of ids used, and the clock, in seconds
and what has passed of the next one, in milliseconds. -/
structure Issuer where
  issued : Nat
  seconds : Int
  millis : Fin 1000
deriving DecidableEq

namespace Issuer

/-- No id used, at the thousandth second. -/
def start : Issuer := ⟨0, 1000, ⟨0, by decide⟩⟩

/-- The time in milliseconds. -/
def time (issuer : Issuer) : Int := issuer.seconds * 1000 + issuer.millis.val

/-- The issuer at a time in milliseconds. -/
def atTime (issuer : Issuer) (time : Int) : Issuer :=
  { issuer with seconds := time / 1000, millis := ⟨(time % 1000).toNat, by omega⟩ }

/-- The issuer with one more id used. -/
def next (issuer : Issuer) : Issuer := { issuer with issued := issuer.issued + 1 }

/-- The id with a number. -/
def idOf [IdSource] (n : Nat) : String := String.ofList ("ref-".toList ++ IdSource.part n)

/-- The reference of a request, with the next id and the time; the default creator stands
in for a missing one. -/
def issue [IdSource] (issuer : Issuer) (creator : Name) (request : NewReference) : Reference × Issuer :=
  ({ id := idOf (issuer.issued + 1)
     sourceType := request.sourceType
     sourceId := request.sourceId
     targetType := request.targetType
     targetId := request.targetId
     relationship := request.relationship
     metadata := request.metadata.kept
     createdAt := issuer.time
     createdBy := if request.createdBy.truthy then request.createdBy else creator },
    issuer.next)

end Issuer

end ChangeImpact
