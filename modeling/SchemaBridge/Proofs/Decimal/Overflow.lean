import Mathlib.Algebra.Order.Field.Power
import Mathlib.Data.Nat.Log
import Mathlib.Tactic.Linarith
import Mathlib.Tactic.NormNum
import Mathlib.Tactic.Positivity
import Mathlib.Tactic.Ring
import SchemaBridge.Decimal.Binary64

/-!
# Decimals too large for a double

A decimal is read as infinity exactly when its magnitude is at least `overflowThreshold`, the point
half a unit in the last place above the largest finite double (`isFinite_ofDecimal_iff`). The point
itself rounds up, since the code of infinity is even.
-/

set_option autoImplicit false

namespace SchemaBridge.Binary64

/-- The least magnitude that rounds to infinity, half way from the largest finite double to the next
power of two. -/
def overflowThreshold : Nat := (2 ^ 54 - 1) * 2 ^ 970

/-! ## Rounded quotients -/

theorem div_le_roundQuotient (a d : Nat) : a / d ≤ roundQuotient a d := by
  unfold roundQuotient
  simp only
  split_ifs <;> omega

theorem roundQuotient_le_div_add_one (a d : Nat) : roundQuotient a d ≤ a / d + 1 := by
  unfold roundQuotient
  simp only
  split_ifs <;> omega

/-- A quotient is rounded up to an even number from half a unit below it on. -/
theorem le_roundQuotient_iff {a d m : Nat} (hd : 0 < d) (hm : m % 2 = 1) :
    m + 1 ≤ roundQuotient a d ↔ (2 * m + 1) * d ≤ 2 * a := by
  have hdiv : d * (a / d) + a % d = a := Nat.div_add_mod a d
  have hmod : a % d < d := Nat.mod_lt a hd
  have hbound : (2 * m + 1) * d = 2 * (d * m) + d := by ring
  rcases Nat.lt_trichotomy (a / d) m with hlt | heq | hgt
  · have hround := roundQuotient_le_div_add_one a d
    have hmul : d * (a / d + 1) ≤ d * m := Nat.mul_le_mul_left d hlt
    rw [Nat.mul_add, Nat.mul_one] at hmul
    constructor <;> intro <;> omega
  · -- Just below the even number the remainder decides, and a tie goes up.
    unfold roundQuotient
    rw [heq] at hdiv ⊢
    simp only
    split_ifs <;> constructor <;> intro <;> omega
  · have hround := div_le_roundQuotient a d
    have hmul : d * (m + 1) ≤ d * (a / d) := Nat.mul_le_mul_left d hgt
    rw [Nat.mul_add, Nat.mul_one] at hmul
    constructor <;> intro <;> omega

/-! ## Codes -/

/-- The code of a quotient in units that is cut to 53 binary digits. -/
def cutCode (scaled denominator : Nat) : Nat :=
  let shift := (scaled / denominator).log2 + 1 - 53
  shift * Nat.pow 2 52 + roundQuotient scaled (denominator * Nat.pow 2 shift)

section Digits

variable {scaled denominator : Nat}

theorem lt_of_log2_lt (hpos : 0 < denominator) {digits : Nat}
    (h : (scaled / denominator).log2 < digits) : scaled < 2 ^ digits * denominator :=
  (Nat.div_lt_iff_lt_mul hpos).1 <|
    Nat.lt_of_lt_of_le Nat.lt_log2_self (Nat.pow_le_pow_right (by decide) h)

theorem le_of_le_log2 (hpos : 0 < denominator) {digits : Nat} (hdigits : 0 < digits)
    (h : digits ≤ (scaled / denominator).log2) : 2 ^ digits * denominator ≤ scaled := by
  have hne : scaled / denominator ≠ 0 := by
    intro hzero
    rw [hzero, Nat.log2_zero] at h
    omega
  exact (Nat.le_div_iff_mul_le hpos).1 <|
    Nat.le_trans (Nat.pow_le_pow_right (by decide) h) (Nat.log2_self_le hne)

/-- The digits dropped and the code reached grow together: a code is at least `(k + 2) * 2 ^ 52`
from half a unit in the last place below `2 ^ (53 + k)` on. -/
theorem le_cutCode_iff (hpos : 0 < denominator) (k : Nat) :
    (k + 2) * 2 ^ 52 ≤ cutCode scaled denominator ↔
      (2 * (2 ^ 53 - 1) + 1) * (denominator * 2 ^ k) ≤ 2 * scaled := by
  unfold cutCode
  simp only [Nat.pow_eq]
  generalize hshift : (scaled / denominator).log2 + 1 - 53 = shift
  have hunit : 0 < denominator * 2 ^ shift := Nat.mul_pos hpos (Nat.two_pow_pos shift)
  rcases Nat.lt_trichotomy shift k with hlt | rfl | hgt
  · -- At most 53 digits remain, so the code is too small, and so is the quotient.
    have hscaled : scaled < 2 ^ 53 * (denominator * 2 ^ shift) := by
      have hlog : (scaled / denominator).log2 < 53 + shift := by omega
      have hbound := lt_of_log2_lt hpos hlog
      rwa [Nat.pow_add, Nat.mul_assoc, Nat.mul_comm (2 ^ shift)] at hbound
    have hdigits := (Nat.div_lt_iff_lt_mul hunit).2 hscaled
    have hround := roundQuotient_le_div_add_one scaled (denominator * 2 ^ shift)
    have hpow : 2 ^ (shift + 1) ≤ 2 ^ k := Nat.pow_le_pow_right (by decide) hlt
    have hmul := Nat.mul_le_mul_left denominator hpow
    rw [Nat.pow_succ', Nat.mul_left_comm] at hmul
    have hcode : shift * 2 ^ 52 + 2 ^ 52 ≤ k * 2 ^ 52 := by
      rw [← Nat.succ_mul]
      exact Nat.mul_le_mul_right _ hlt
    constructor <;> intro <;> omega
  · have hodd : (2 ^ 53 - 1) % 2 = 1 := by decide
    rw [← le_roundQuotient_iff hunit hodd]
    constructor <;> intro <;> omega
  · -- All 53 digits are there, so both sides are reached.
    have hscaled : 2 ^ 52 * (denominator * 2 ^ shift) ≤ scaled := by
      have hlog : 52 + shift ≤ (scaled / denominator).log2 := by omega
      have hbound := le_of_le_log2 hpos (by omega) hlog
      rwa [Nat.pow_add, Nat.mul_assoc, Nat.mul_comm (2 ^ shift)] at hbound
    have hdigits := (Nat.le_div_iff_mul_le hunit).2 hscaled
    have hround := div_le_roundQuotient scaled (denominator * 2 ^ shift)
    have hpow : 2 ^ (k + 1) ≤ 2 ^ shift := Nat.pow_le_pow_right (by decide) hgt
    have hmul := Nat.mul_le_mul_left denominator hpow
    rw [Nat.pow_succ', Nat.mul_left_comm] at hmul
    have hcode : k * 2 ^ 52 + 2 ^ 52 ≤ shift * 2 ^ 52 := by
      rw [← Nat.succ_mul]
      exact Nat.mul_le_mul_right _ hgt
    constructor <;> intro <;> omega

end Digits

/-- The law for a quotient of which `2 ^ n` units make one. -/
theorem le_cutCode_units_iff {numerator denominator : Nat} (hpos : 0 < denominator) (m n : Nat) :
    (m + n + 1 + 2) * 2 ^ 52 ≤ cutCode (numerator * Nat.pow 2 n) denominator ↔
      (2 ^ 54 - 1) * 2 ^ m * denominator ≤ numerator := by
  have hunits : 0 < 2 * 2 ^ n := Nat.mul_pos (by decide) (Nat.two_pow_pos n)
  have hleft : (2 * (2 ^ 53 - 1) + 1) * (denominator * 2 ^ (m + n + 1)) =
      2 * 2 ^ n * ((2 ^ 54 - 1) * 2 ^ m * denominator) := by ring
  have hright : 2 * (numerator * 2 ^ n) = 2 * 2 ^ n * numerator := by ring
  rw [le_cutCode_iff hpos, Nat.pow_eq, hleft, hright]
  exact Nat.mul_le_mul_left_iff hunits

theorem infinityCode_le_nearestCode_iff {numerator denominator : Nat} (hpos : 0 < denominator) :
    infinityCode ≤ nearestCode numerator denominator ↔
      overflowThreshold * denominator ≤ numerator := by
  have hinfinity : infinityCode = (970 + 1074 + 1 + 2) * 2 ^ 52 := rfl
  have hcode : nearestCode numerator denominator =
      cutCode (numerator * Nat.pow 2 1074) denominator := by
    delta nearestCode cutCode
    with_reducible rfl
  rw [hinfinity, hcode]
  -- The power is too large to be computed with.
  generalize 1074 = digits
  exact le_cutCode_units_iff hpos 970 digits

theorem isFinite_ofRatio_iff {negative : Bool} {numerator denominator : Nat}
    (hpos : 0 < denominator) :
    (ofRatio negative numerator denominator).isFinite = true ↔
      numerator < overflowThreshold * denominator := by
  have hfinite : (ofRatio negative numerator denominator).isFinite =
      decide (min (nearestCode numerator denominator) infinityCode < infinityCode) := rfl
  rw [hfinite, decide_eq_true_iff, min_lt_iff, or_iff_left (lt_irrefl _), ← not_le,
    infinityCode_le_nearestCode_iff hpos, not_le]

/-! ## Decimals -/

theorem mul_two_pow_le_ten_pow {m n : Nat} (h : 54 + m ≤ 3 * n) :
    (2 ^ 54 - 1) * 2 ^ m ≤ 10 ^ n :=
  calc (2 ^ 54 - 1) * 2 ^ m ≤ 2 ^ 54 * 2 ^ m := Nat.mul_le_mul_right _ (Nat.sub_le _ _)
    _ = 2 ^ (54 + m) := (Nat.pow_add ..).symm
    _ ≤ 2 ^ (3 * n) := Nat.pow_le_pow_right (by decide) h
    _ = 8 ^ n := Nat.pow_mul ..
    _ ≤ 10 ^ n := Nat.pow_le_pow_left (by decide) n

theorem overflowThreshold_le_ten_pow : overflowThreshold ≤ 10 ^ 400 :=
  mul_two_pow_le_ten_pow (by decide)

theorem one_le_overflowThreshold : 1 ≤ overflowThreshold := by
  have hthresholds : ∀ n, 1 ≤ (2 ^ 54 - 1) * 2 ^ n := fun n =>
    Nat.mul_pos (by decide) (Nat.two_pow_pos n)
  exact hthresholds 970

/-- A coefficient has at most as many decimal digits as binary ones. -/
theorem lt_ten_pow_log2_succ (n : Nat) : n < 10 ^ (n.log2 + 1) :=
  Nat.lt_of_lt_of_le Nat.lt_log2_self (Nat.pow_le_pow_left (by decide) _)

/-- **A decimal is read as a finite double exactly when it lies below the threshold.** -/
theorem isFinite_ofDecimal_iff {negative : Bool} {coefficient : Nat} {exponent : Int} :
    (ofDecimal negative coefficient exponent).isFinite = true ↔
      (coefficient : ℚ) * 10 ^ exponent < overflowThreshold := by
  have hone : (1 : ℚ) ≤ overflowThreshold := by exact_mod_cast one_le_overflowThreshold
  have hfinite : (zero negative).isFinite = true := rfl
  have hinfinite : (infinity negative).isFinite = false := rfl
  unfold ofDecimal
  split_ifs with hzero hlarge hsmall hwhole
  · simp only [hfinite, hzero, Nat.cast_zero, zero_mul, true_iff]
    linarith
  · have hcoefficient : (1 : ℚ) ≤ coefficient := by exact_mod_cast Nat.pos_of_ne_zero hzero
    have hthreshold : (overflowThreshold : ℚ) ≤ 10 ^ (400 : Int) := by
      exact_mod_cast overflowThreshold_le_ten_pow
    have hpower : (10 : ℚ) ^ (400 : Int) ≤ 10 ^ exponent :=
      zpow_le_zpow_right₀ (by norm_num) hlarge.le
    simp only [hinfinite, Bool.false_eq_true, false_iff, not_lt]
    exact hthreshold.trans (hpower.trans (le_mul_of_one_le_left (by positivity) hcoefficient))
  · have hcoefficient : (coefficient : ℚ) < 10 ^ ((coefficient.log2 + 1 : Nat) : Int) := by
      rw [zpow_natCast]
      exact_mod_cast lt_ten_pow_log2_succ coefficient
    have hpower : (10 : ℚ) ^ ((coefficient.log2 + 1 : Nat) : Int) * 10 ^ exponent ≤ 1 := by
      rw [← zpow_add₀ (by norm_num)]
      exact zpow_le_one_of_nonpos₀ (by norm_num) (by omega)
    simp only [hfinite, true_iff]
    have hscale : (0 : ℚ) < 10 ^ exponent := by positivity
    nlinarith
  · obtain ⟨n, rfl⟩ := Int.eq_ofNat_of_zero_le hwhole
    rw [isFinite_ofRatio_iff Nat.one_pos, Nat.mul_one, Nat.pow_eq, Int.toNat_natCast, zpow_natCast]
    exact_mod_cast Iff.rfl
  · obtain ⟨n, hn⟩ := Int.eq_ofNat_of_zero_le (show 0 ≤ -exponent by omega)
    have hden : 0 < 10 ^ n := Nat.pow_pos (by decide)
    obtain rfl : exponent = -(n : Int) := by omega
    rw [neg_neg, Int.toNat_natCast, Nat.pow_eq, isFinite_ofRatio_iff hden, zpow_neg, zpow_natCast,
      ← div_eq_mul_inv, div_lt_iff₀ (by positivity)]
    exact_mod_cast Iff.rfl

end SchemaBridge.Binary64
