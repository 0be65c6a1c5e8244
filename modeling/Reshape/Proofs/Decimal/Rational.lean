import Mathlib.Algebra.Order.Field.Rat
import Mathlib.Algebra.Order.Ring.Int
import Mathlib.Tactic.NormNum
import Mathlib.Tactic.Positivity
import Reshape.Decimal.Basic

/-!
# Decimals as rational numbers

`Decimal.toRat` is the number that a decimal stands for. Decimals are compared crosswise, by the
mantissa of each in units of the last place of both, so the comparison is that of the numbers
(`compare_eq`, `sameNumber_eq`): neither trailing zeros nor the sign of zero count.
-/

namespace Reshape.Decimal

theorem tenTo_eq (n : Nat) : tenTo n = 10 ^ n := rfl

/-- `d.toRat` is the number that `d` stands for. -/
def toRat (d : Decimal) : ℚ := d.signed / 10 ^ d.scale

/-- Two decimals in common units. -/
theorem toRat_mul_units (a b : Decimal) :
    a.toRat * (10 ^ a.scale * 10 ^ b.scale) = (a.signed * tenTo b.scale : Int) := by
  have hpower : (10 : ℚ) ^ a.scale ≠ 0 := pow_ne_zero _ (by norm_num)
  rw [toRat, ← mul_assoc, div_mul_cancel₀ _ hpower, tenTo_eq]
  push_cast
  rfl

/-- Decimals are compared as the numbers that they stand for. -/
theorem compare_eq (a b : Decimal) : a.compare b = compare a.toRat b.toRat := by
  have hunits : (0 : ℚ) < 10 ^ a.scale * 10 ^ b.scale := by positivity
  have hother : b.toRat * (10 ^ a.scale * 10 ^ b.scale) = (b.signed * tenTo a.scale : Int) := by
    rw [mul_comm (10 ^ a.scale : ℚ), toRat_mul_units b a]
  calc a.compare b
      = cmp (a.signed * tenTo b.scale) (b.signed * tenTo a.scale) := (cmp_eq_compare _ _).symm
    _ = cmp ((a.signed * tenTo b.scale : Int) : ℚ) (b.signed * tenTo a.scale : Int) :=
        (Int.cast_strictMono.cmp_map_eq _ _).symm
    _ = cmp (a.toRat * (10 ^ a.scale * 10 ^ b.scale))
          (b.toRat * (10 ^ a.scale * 10 ^ b.scale)) := by rw [toRat_mul_units a b, hother]
    _ = cmp a.toRat b.toRat := cmp_mul_pos_right hunits _ _
    _ = compare a.toRat b.toRat := cmp_eq_compare _ _

/-- Decimals are the same when they stand for one number. -/
theorem sameNumber_eq (a b : Decimal) : a.sameNumber b = decide (a.toRat = b.toRat) := by
  rw [← Bool.coe_iff_coe, decide_eq_true_eq, sameNumber, beq_iff_eq]
  rw [← compare_eq_iff_eq (a := a.toRat), ← compare_eq, Decimal.compare, compare_eq_iff_eq]

/-- A 64-bit integer stands for itself. -/
theorem toRat_ofInt64 (n : Int64) : (ofInt64 n).toRat = n.toInt := by
  have hsigned : (ofInt64 n).signed = n.toInt := by
    simp only [signed, ofInt64, decide_eq_true_eq]
    split
    · omega
    · omega
  have hscale : (ofInt64 n).scale = 0 := rfl
  rw [toRat, hsigned, hscale, pow_zero, div_one]

end Reshape.Decimal
