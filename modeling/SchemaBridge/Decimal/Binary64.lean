/-!
# Double-precision numbers

A double is a sign and a magnitude code. The codes `0, 1, 2, …` number the non-negative doubles in
increasing order; the last one, `infinityCode`, stands for infinity. Written after the sign bit the
code is the interchange format of the number (`Binary64.toBits`), and the distance of neighbouring
codes is one unit in the last place, so rounding is a statement about codes
(`Binary64.ofRatio`).

Everything is exact natural-number arithmetic: a finite magnitude is a whole number of units
`2⁻¹⁰⁷⁴` (`Binary64.units`).
-/

set_option autoImplicit false

namespace SchemaBridge

/-- The magnitude code of infinity: the largest exponent field, an empty fraction field. -/
def Binary64.infinityCode : Nat := 2047 * Nat.pow 2 52

/-- A double-precision number other than a NaN. -/
structure Binary64 where
  /-- The sign bit; a zero has one too. -/
  negative : Bool
  /-- The position of the magnitude among the non-negative doubles. -/
  code : Nat
  /-- No magnitude lies above infinity. -/
  code_le : code ≤ Binary64.infinityCode
deriving DecidableEq

namespace Binary64

/-- Zero with a sign. -/
def zero (negative : Bool) : Binary64 := ⟨negative, 0, Nat.zero_le _⟩

/-- Infinity with a sign. -/
def infinity (negative : Bool) : Binary64 := ⟨negative, infinityCode, Nat.le_refl _⟩

/-- Not an infinity. -/
def isFinite (x : Binary64) : Bool := x.code < infinityCode

/-- The 64 bits of the interchange format, sign bit first. -/
def toBits (x : Binary64) : Nat := (if x.negative then Nat.pow 2 63 else 0) + x.code

/-- The magnitude of a finite code, counted in units `2⁻¹⁰⁷⁴`. At `infinityCode` it is the power of
two just above the largest finite magnitude. -/
def units (code : Nat) : Nat :=
  let exponent := code / Nat.pow 2 52
  if exponent = 0 then code else (Nat.pow 2 52 + code % Nat.pow 2 52) * Nat.pow 2 (exponent - 1)

/-- The natural number nearest to a quotient; of two equally near ones the even one. -/
def roundQuotient (numerator denominator : Nat) : Nat :=
  let floor := numerator / denominator
  let twice := 2 * (numerator % denominator)
  if twice < denominator then floor
  else if denominator < twice then floor + 1
  else if floor % 2 = 0 then floor else floor + 1

/-- The code nearest to a quotient, as if the exponent range had no end. The quotient, counted in
units, is cut to 53 binary digits; `shift` is the number of digits dropped. -/
def nearestCode (numerator denominator : Nat) : Nat :=
  let scaled := numerator * Nat.pow 2 1074
  let shift := (scaled / denominator).log2 + 1 - 53
  shift * Nat.pow 2 52 + roundQuotient scaled (denominator * Nat.pow 2 shift)

/-- The double nearest to a quotient, ties to even, with infinity beyond the largest finite one. -/
def ofRatio (negative : Bool) (numerator denominator : Nat) : Binary64 :=
  ⟨negative, min (nearestCode numerator denominator) infinityCode, Nat.min_le_right _ _⟩

/-- The double nearest to `coefficient · 10 ^ exponent`. Exponents far outside the range of doubles
are settled first, so that no power of ten grows beyond need: with a positive coefficient and an
exponent above `400` the value exceeds every double, and a value below `10⁻⁴⁰⁰` rounds to zero. -/
def ofDecimal (negative : Bool) (coefficient : Nat) (exponent : Int) : Binary64 :=
  if coefficient = 0 then zero negative
  else if 400 < exponent then infinity negative
  else if exponent + (coefficient.log2 + 1 : Nat) < -400 then zero negative
  else if 0 ≤ exponent then ofRatio negative (coefficient * Nat.pow 10 exponent.toNat) 1
  else ofRatio negative coefficient (Nat.pow 10 (-exponent).toNat)

/-! ## Fixed values -/

example : (ofDecimal false 15 (-1)).toBits = 0x3ff8000000000000 := by decide +kernel
example : (ofDecimal false 1 (-1)).toBits = 0x3fb999999999999a := by decide +kernel
example : (ofDecimal true 0 5).toBits = 0x8000000000000000 := by decide +kernel
example : (ofDecimal false 5 (-324)).toBits = 1 := by decide +kernel
example : (ofDecimal false 17976931348623157 292).toBits = 0x7fefffffffffffff := by decide +kernel
example : ofDecimal false 1 309 = infinity false := by decide +kernel

end Binary64

end SchemaBridge
