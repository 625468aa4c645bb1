import Mathlib.Algebra.Order.Field.Rat
import Mathlib.Algebra.Order.Field.Power
import Mathlib.Algebra.Order.Round
import Mathlib.Data.Rat.Floor
import Mathlib.Tactic.Linarith
import Mathlib.Tactic.NormNum

/-!
Binary64 arithmetic on the values a clock in milliseconds gives rise to: each
operation rounds its exact result to 53 significant bits, ties to even.  The
range is that of normal numbers, without overflow.
-/

namespace Devproof

def roundEven (value : Rat) : Int :=
  let low := ⌊value⌋
  if value - low < 1 / 2 then low
  else if 1 / 2 < value - low then low + 1
  else if low % 2 = 0 then low
  else low + 1

def binaryExponent (value : Rat) : Int :=
  let guess := (Nat.log2 value.num.natAbs : Int) - Nat.log2 value.den
  if (2 : Rat) ^ guess ≤ |value| then guess else guess - 1

def double (value : Rat) : Rat :=
  if value = 0 then 0
  else
    let scale : Rat := 2 ^ (binaryExponent value - 52)
    roundEven (value / scale) * scale

def plus (left right : Int) : Int :=
  ⌊double (left + right)⌋

def minus (left right : Int) : Int :=
  ⌊double (left - right)⌋

def mathRound (value : Rat) : Int :=
  ⌊value + 1 / 2⌋

theorem roundEven_int (value : Int) : roundEven value = value := by
  simp [roundEven]

theorem binaryExponent_int (value : Int) (nonzero : value ≠ 0) :
    binaryExponent value = Nat.log2 value.natAbs := by
  have below : (2 : Rat) ^ ((Nat.log2 value.natAbs : Nat) : Int) ≤ |(value : Rat)| := by
    have natural := Nat.log2_self_le (Int.natAbs_ne_zero.mpr nonzero)
    rw [zpow_natCast, ← Int.cast_abs, Int.abs_eq_natAbs]
    exact_mod_cast natural
  have whole : Nat.log2 1 = 0 := by decide
  simp only [binaryExponent, Rat.num_intCast, Rat.den_intCast, whole, Nat.cast_zero, sub_zero]
  rw [if_pos below]

theorem double_int {value : Int} (small : |value| ≤ 2 ^ 53) : double value = value := by
  by_cases zero : value = 0
  · simp [zero, double]
  have nonzero : (value : Rat) ≠ 0 := Int.cast_ne_zero.mpr zero
  have natural : value.natAbs ≤ 2 ^ 53 := by
    rw [Int.abs_eq_natAbs] at small
    exact_mod_cast small
  simp only [double, if_neg nonzero, binaryExponent_int value zero]
  by_cases fits : Nat.log2 value.natAbs ≤ 52
  · obtain ⟨shift, split⟩ := Nat.exists_eq_add_of_le fits
    have scale : (2 : Rat) ^ ((Nat.log2 value.natAbs : Int) - 52) = (2 ^ shift)⁻¹ := by
      rw [show ((Nat.log2 value.natAbs : Nat) : Int) - 52 = -(shift : Int) by omega, zpow_neg,
        zpow_natCast]
    have exact : (value : Rat) / (2 ^ shift)⁻¹ = ((value * 2 ^ shift : Int) : Rat) := by
      push_cast
      rw [div_inv_eq_mul]
    rw [scale, exact, roundEven_int]
    push_cast
    rw [mul_assoc, mul_inv_cancel₀ (by positivity), mul_one]
  · have most : value.natAbs = 2 ^ 53 := by
      have least := Nat.log2_self_le (Int.natAbs_ne_zero.mpr zero)
      have large : 2 ^ 53 ≤ 2 ^ Nat.log2 value.natAbs := Nat.pow_le_pow_right (by decide) (by omega)
      omega
    rw [most, show ((Nat.log2 (2 ^ 53) : Nat) : Int) - 52 = 1 by decide, zpow_one]
    have half : (value : Rat) / 2 = ((value / 2 : Int) : Rat) := by
      have even : value / 2 * 2 = value := by omega
      rw [div_eq_iff (by norm_num)]
      exact_mod_cast even.symm
    rw [half, roundEven_int]
    have even : value / 2 * 2 = value := by omega
    exact_mod_cast even

theorem plus_eq {left right : Int} (small : |left + right| ≤ 2 ^ 53) :
    plus left right = left + right := by
  have exact := double_int small
  push_cast at exact
  rw [plus, exact]
  exact_mod_cast Int.floor_intCast (left + right)

theorem minus_eq {left right : Int} (small : |left - right| ≤ 2 ^ 53) :
    minus left right = left - right := by
  have exact := double_int small
  push_cast at exact
  rw [minus, exact]
  exact_mod_cast Int.floor_intCast (left - right)

theorem plus_exact {left right : Int} (leftFits : 0 ≤ left) (rightFits : 0 ≤ right)
    (fits : left + right ≤ 2 ^ 53) : plus left right = left + right :=
  plus_eq (abs_le.mpr ⟨by omega, fits⟩)

/-! How far a rounded value is from the exact one. -/

theorem roundEven_near (value : Rat) : |(roundEven value : Rat) - value| ≤ 1 / 2 := by
  have low := Int.floor_le value
  have high := Int.lt_floor_add_one value
  rw [abs_le]
  simp only [roundEven]
  split
  · constructor <;> linarith
  · split
    · push_cast
      constructor <;> linarith
    · split
      · constructor <;> linarith
      · push_cast
        constructor <;> linarith

theorem binaryExponent_le {value : Rat} (nonzero : value ≠ 0) :
    (2 : Rat) ^ binaryExponent value ≤ |value| := by
  rw [binaryExponent]
  split
  · assumption
  · -- The numerator has its bits, and the denominator at most one more than counted.
    have top : (2 : Rat) ^ (Nat.log2 value.num.natAbs : Int) ≤ value.num.natAbs := by
      rw [zpow_natCast]
      exact_mod_cast Nat.log2_self_le (Int.natAbs_ne_zero.mpr (Rat.num_ne_zero.mpr nonzero))
    have below : (value.den : Rat) ≤ 2 ^ ((Nat.log2 value.den : Int) + 1) := by
      have least : value.den < 2 ^ (Nat.log2 value.den + 1) := Nat.lt_log2_self
      rw [show (Nat.log2 value.den : Int) + 1 = ((Nat.log2 value.den + 1 : Nat) : Int) by simp,
        zpow_natCast]
      exact_mod_cast least.le
    have positive : (0 : Rat) < value.den := by exact_mod_cast value.den_pos
    have fraction : |value| = value.num.natAbs / value.den := by
      conv_lhs => rw [← Rat.num_div_den value]
      rw [abs_div, abs_of_pos positive, Nat.cast_natAbs, Int.cast_abs]
    rw [fraction, le_div_iff₀ positive]
    calc (2 : Rat) ^ ((Nat.log2 value.num.natAbs : Int) - Nat.log2 value.den - 1) * value.den
        ≤ 2 ^ ((Nat.log2 value.num.natAbs : Int) - Nat.log2 value.den - 1) *
            2 ^ ((Nat.log2 value.den : Int) + 1) :=
          mul_le_mul_of_nonneg_left below (by positivity)
      _ = 2 ^ (Nat.log2 value.num.natAbs : Int) := by
          rw [← zpow_add₀ (by norm_num)]
          congr 1
          ring
      _ ≤ value.num.natAbs := top

theorem double_near (value : Rat) : |double value - value| ≤ |value| / 2 ^ 53 := by
  by_cases zero : value = 0
  · simp [zero, double]
  rw [double, if_neg zero]
  simp only
  have split : (2 : Rat) ^ (binaryExponent value - 52) = 2 ^ binaryExponent value / 2 ^ 52 := by
    rw [zpow_sub₀ (by norm_num)]
    norm_num
  have least := binaryExponent_le zero
  have positive : (0 : Rat) < 2 ^ (binaryExponent value - 52) := by positivity
  have near := roundEven_near (value / 2 ^ (binaryExponent value - 52))
  calc |roundEven (value / 2 ^ (binaryExponent value - 52)) * 2 ^ (binaryExponent value - 52) -
          value|
      = |roundEven (value / 2 ^ (binaryExponent value - 52)) -
          value / 2 ^ (binaryExponent value - 52)| * 2 ^ (binaryExponent value - 52) := by
        rw [← abs_of_pos positive, ← abs_mul, abs_of_pos positive, sub_mul,
          div_mul_cancel₀ _ positive.ne']
    _ ≤ 1 / 2 * 2 ^ (binaryExponent value - 52) := mul_le_mul_of_nonneg_right near positive.le
    _ ≤ |value| / 2 ^ 53 := by
        rw [split]
        linarith

theorem double_within {value bound : Rat} (small : |value| ≤ bound) :
    double value ≤ value + bound / 2 ^ 53 ∧ value - bound / 2 ^ 53 ≤ double value := by
  obtain ⟨low, high⟩ := abs_le.mp (double_near value)
  have part : |value| / 2 ^ 53 ≤ bound / 2 ^ 53 := by gcongr
  constructor <;> linarith

end Devproof
