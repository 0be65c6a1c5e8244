import Reshape.Number.Power
import Reshape.Number.Rounding

/-!
# Decimals

A `Decimal` is a sign, a mantissa of 96 bits and a scale of at most 28 decimal places. The same
number can have several forms, which differ in scale or, for zero, in sign; `Decimal.compare`
compares the numbers that the forms stand for.
-/

namespace Reshape

/-- Mantissas are below this bound. -/
def Decimal.mantissaBound : Nat := twoTo 96

/-- A `Decimal` stands for `mantissa / 10 ^ scale`, negated if `negative` is set. -/
structure Decimal where
  negative : Bool
  mantissa : Nat
  scale : Nat
  mantissa_lt : mantissa < Decimal.mantissaBound
  scale_le : scale ≤ 28
deriving DecidableEq

namespace Decimal

/-- `make? negative m s` is the decimal with these parts, if they are in range. -/
def make? (negative : Bool) (m s : Nat) : Option Decimal :=
  if h : m < mantissaBound ∧ s ≤ 28 then some ⟨negative, m, s, h.1, h.2⟩ else none

/-- `zero` is zero without decimal places. -/
def zero : Decimal := ⟨false, 0, 0, by decide, by decide⟩

/-- `d.isZero` says `d` is a zero of some form. -/
def isZero (d : Decimal) : Bool := d.mantissa == 0

/-- `d.neg` is `d` with the other sign; a zero changes its sign too. -/
def neg (d : Decimal) : Decimal := { d with negative := !d.negative }

/-- An `Int64` has a magnitude of at most `2 ^ 63`. -/
theorem natAbs_toInt_lt (n : Int64) : n.toInt.natAbs < mantissaBound := by
  have low := Int64.minValue_le_toInt n
  have high := Int64.toInt_lt n
  have bound : mantissaBound = 79228162514264337593543950336 := rfl
  rw [bound]
  simp at low
  omega

/-- `ofInt64 n` is the integer `n`. -/
def ofInt64 (n : Int64) : Decimal :=
  ⟨decide (n.toInt < 0), n.toInt.natAbs, 0, natAbs_toInt_lt n, by decide⟩

/-- `d.signed` is the mantissa of `d` with its sign. -/
def signed (d : Decimal) : Int :=
  if d.negative then -(d.mantissa : Int) else d.mantissa

/-- `a.compare b` compares the numbers `a` and `b` exactly. -/
protected def compare (a b : Decimal) : Ordering :=
  Ord.compare (a.signed * tenTo b.scale) (b.signed * tenTo a.scale)

/-- `a.sameNumber b` says `a` and `b` stand for one number. -/
def sameNumber (a b : Decimal) : Bool :=
  a.signed * tenTo b.scale == b.signed * tenTo a.scale

end Decimal

end Reshape
