import SchemaBridge.Decimal.Binary64

/-!
# Shortest decimal of a double

Among the decimals that round to a given double, `Binary64.shortest` takes those with the fewest
digits, and among these the one nearest to the double; an exact tie goes to the even digit.

A double owns the decimals between the midpoints to its two neighbours, the midpoints included when
its code is even. For each digit count only the two grid points next to the double can lie there, so
two tests per count settle the question, and seventeen digits always suffice.
-/

set_option autoImplicit false

namespace SchemaBridge

/-- The decimal `coefficient · 10 ^ exponent`. -/
structure Decimal where
  coefficient : Nat
  exponent : Int
deriving DecidableEq

namespace Binary64

/-- The two sides of the comparison of `coefficient · 10 ^ exponent` with `units` halves of a unit
`2⁻¹⁰⁷⁴`, brought to a common denominator. -/
def commonScale (d : Decimal) (halfUnits : Nat) : Nat × Nat :=
  if 0 ≤ d.exponent then (d.coefficient * Nat.pow 10 d.exponent.toNat * Nat.pow 2 1075, halfUnits)
  else (d.coefficient * Nat.pow 2 1075, halfUnits * Nat.pow 10 (-d.exponent).toNat)

/-- The decimal rounds to the positive magnitude `code`. -/
def owns (code : Nat) (d : Decimal) : Bool :=
  let lower := commonScale d (units (code - 1) + units code)
  let upper := commonScale d (units code + units (code + 1))
  if code % 2 = 0 then lower.2 ≤ lower.1 && upper.1 ≤ upper.2
  else lower.2 < lower.1 && upper.1 < upper.2

/-- The number of digits before the decimal point of a positive magnitude: `n` with
`10 ^ (n - 1) ≤ x < 10 ^ n`. Every positive double exceeds `10⁻³²⁴`, so four hundred more places
leave a whole number with digits to count. -/
def pointPosition (code : Nat) : Int :=
  ((Nat.toDigits 10 (units code * Nat.pow 10 400 / Nat.pow 2 1074)).length : Int) - 400

/-- The grid point with `count` digits that rounds to the positive magnitude `code`, if there is
one; of two the nearer. -/
def gridPoint? (code : Nat) (count : Nat) : Option Decimal :=
  let exponent := pointPosition code - count
  let numerator := if 0 ≤ exponent then units code else units code * Nat.pow 10 (-exponent).toNat
  let denominator :=
    if 0 ≤ exponent then Nat.pow 2 1074 * Nat.pow 10 exponent.toNat else Nat.pow 2 1074
  let below : Decimal := ⟨numerator / denominator, exponent⟩
  let above : Decimal := ⟨numerator / denominator + 1, exponent⟩
  if owns code below && owns code above then
    some ⟨roundQuotient numerator denominator, exponent⟩
  else if owns code below then some below
  else if owns code above then some above
  else none

/-- The shortest decimal of a positive magnitude. A last digit zero arises only from a carry into a
further place and is dropped. -/
def shortest (code : Nat) : Decimal :=
  let d := ((List.range 17).findSome? fun n => gridPoint? code (n + 1)).getD ⟨0, 0⟩
  if d.coefficient % 10 = 0 then ⟨d.coefficient / 10, d.exponent + 1⟩ else d

/-! ## Fixed values -/

example : shortest (ofDecimal false 1 (-1)).code = ⟨1, -1⟩ := by decide +kernel
example : shortest (ofDecimal false 30000000000000004 (-17)).code = ⟨30000000000000004, -17⟩ := by
  decide +kernel
example : shortest 1 = ⟨5, -324⟩ := by decide +kernel
example : shortest (ofDecimal false 1 23).code = ⟨1, 23⟩ := by decide +kernel

end Binary64

end SchemaBridge
