import ChangeImpact.Decimal.Extended
import ChangeImpact.Fault

/-!
# Texts in a table

A table keeps texts.  What is stored, or looked for, may be given in another form: numbers
turn into decimal text and truth values into `1` and `0`, null stays empty, and lists,
objects and integers beyond sixty-four bits are refused, with the position of the parameter
that holds them.
-/

namespace ChangeImpact

-- powers of whole numbers are the core ones, whatever else is imported
attribute [local instance (high)] instPowNat

/-- An integer of sixty-four bits. -/
def fitsWord (n : Int) : Bool := -(2 ^ (63 : Nat) : Int) ≤ n && n < 2 ^ (63 : Nat)

/-- A finite number as text in a table: at most fifteen digits, and an exponent for what is
too long for them. -/
def Binary64.cellText (x : Binary64) : String :=
  let magnitude :=
    if x.isZero then "0.0".toList
    else
      let d := Extended.digits (x.significand * Binary64.unitOf x.scale)
      if -4 ≤ d.exponent && d.exponent < 15 then Decimal.positional d
      else
        Decimal.scientific
          ⟨if d.digits.length = 1 then d.digits ++ [0] else d.digits, d.exponent⟩
  String.ofList (if x.isNegative && !x.isZero then '-' :: magnitude else magnitude)

/-- The text that a value is in a table, if any; the number is the position of the parameter
that holds the value. -/
def Json.cell (parameter : Nat) : Json → Checked (Option String)
  | .null => .ok none
  | .bool b => .ok (some (if b then "1" else "0"))
  | .int n => if fitsWord n then .ok (some (toString n)) else .error .integerTooLarge
  | .float x =>
    .ok (if x.isNaN then none
      else if x.isInfinite then some (if x.isNegative then "-Inf" else "Inf")
      else some x.cellText)
  | .str s => .ok (some s)
  | .arr _ => .error (.unstorable parameter "list")
  | .obj _ => .error (.unstorable parameter "dict")

@[simp] theorem Json.cell_str (parameter : Nat) (s : String) :
    Json.cell parameter (.str s) = .ok (some s) := rfl

end ChangeImpact
