/-!
# Decimal digits

Unicode has many sets of ten digits, each set in ten consecutive code points from zero to nine.
`digitValue?` reads a digit of any of them; `asciiDigitValue?` knows only the first.
-/

set_option autoImplicit false

namespace SchemaBridge.Text

/-- The zeros of the sets of decimal digits, in code point order. -/
def digitZeros : List Nat :=
  [0x30, 0x660, 0x6f0, 0x7c0, 0x966, 0x9e6, 0xa66, 0xae6, 0xb66, 0xbe6, 0xc66, 0xce6, 0xd66, 0xde6,
    0xe50, 0xed0, 0xf20, 0x1040, 0x1090, 0x17e0, 0x1810, 0x1946, 0x19d0, 0x1a80, 0x1a90, 0x1b50,
    0x1bb0, 0x1c40, 0x1c50, 0xa620, 0xa8d0, 0xa900, 0xa9d0, 0xa9f0, 0xaa50, 0xabf0, 0xff10, 0x104a0,
    0x10d30, 0x11066, 0x110f0, 0x11136, 0x111d0, 0x112f0, 0x11450, 0x114d0, 0x11650, 0x116c0,
    0x11730, 0x118e0, 0x11950, 0x11c50, 0x11d50, 0x11da0, 0x11f50, 0x16a60, 0x16ac0, 0x16b50,
    0x1d7ce, 0x1d7d8, 0x1d7e2, 0x1d7ec, 0x1d7f6, 0x1e140, 0x1e2f0, 0x1e4f0, 0x1e950, 0x1fbf0]

/-- The value of a decimal digit of any set. -/
def digitValue? (c : Char) : Option Nat :=
  (digitZeros.find? fun first => first ≤ c.toNat && c.toNat < first + 10).map (c.toNat - ·)

/-- The value of an ASCII digit. -/
def asciiDigitValue? (c : Char) : Option Nat :=
  if 0x30 ≤ c.toNat ∧ c.toNat < 0x3a then some (c.toNat - 0x30) else none

/-- The ASCII digits have the same value as members of the table. -/
theorem digitValue?_of_ascii {c : Char} {n : Nat} (h : asciiDigitValue? c = some n) :
    digitValue? c = some n := by
  unfold asciiDigitValue? at h
  split at h
  · rename_i hc
    simp only [Option.some.injEq] at h
    have h1 : 48 ≤ c.toNat := hc.1
    have h2 : c.toNat < 48 + 10 := hc.2
    simp [digitValue?, digitZeros, h1, h2, h]
  · cases h

example : digitValue? '٣' = some 3 ∧ digitValue? '９' = some 9 ∧ digitValue? '½' = none := by decide
example : digitZeros.length = 68 := by decide

end SchemaBridge.Text
