import Mathlib.Algebra.Order.Field.Power
import Mathlib.Data.Rat.Cast.Order
import Mathlib.Tactic.FieldSimp
import Mathlib.Tactic.Linarith
import Mathlib.Tactic.Positivity
import Mathlib.Tactic.Ring
import Reshape.Number.Shortest
import Reshape.Proofs.Number.Rounding

/-!
# Rounding to binary64

The absolute value of a binary64 number is a rational number (`Binary64.absolute`).
-/

namespace Reshape.Binary64

/-- `x.absolute` is the absolute value of `x`. -/
def absolute (x : Binary64) : ℚ := x.mantissa * 2 ^ x.exponent

theorem twoTo_eq (n : Nat) : twoTo n = 2 ^ n := rfl

/-- The magnitude of a number has a denominator. -/
theorem magnitude_pos (x : Binary64) : 0 < x.magnitude.2 := by
  rw [magnitude]
  split
  · exact Nat.one_pos
  · exact Nat.pow_pos (by decide)

/-- The fraction that stands for the absolute value is equal to it. -/
theorem magnitude_eq (x : Binary64) : (x.magnitude.1 : ℚ) / x.magnitude.2 = x.absolute := by
  obtain ⟨negative, mantissa, exponent⟩ := x
  cases exponent with
  | ofNat k => simp [magnitude, absolute, twoTo_eq]
  | negSucc k => simp [magnitude, absolute, twoTo_eq, zpow_negSucc, div_eq_mul_inv]

theorem magnitude_ne_zero {x : Binary64} (h : x.absolute ≠ 0) : x.magnitude.1 ≠ 0 := by
  intro hzero
  rw [← magnitude_eq, hzero, Nat.cast_zero, zero_div] at h
  exact h rfl

theorem scaledBy_pos {d : Nat} (e : Int) (n : Nat) (hd : 0 < d) : 0 < (scaledBy e n d).2 := by
  cases e with
  | ofNat k => exact Nat.mul_pos hd (Nat.pow_pos (by decide))
  | negSucc k => exact hd

/-- Scaling divides by a power of two. -/
theorem scaledBy_eq (e : Int) (n d : Nat) :
    ((scaledBy e n d).1 : ℚ) / (scaledBy e n d).2 = n / d / 2 ^ e := by
  cases e with
  | ofNat k => simp [scaledBy, twoTo_eq, div_div]
  | negSucc k =>
      simp only [scaledBy, twoTo_eq, zpow_negSucc, Nat.cast_mul, Nat.cast_pow, Nat.cast_ofNat,
        div_inv_eq_mul]
      ring

/-! ## The exponent of a fraction -/

variable {n d : Nat} {q : ℚ}

/-- A positive natural number lies between two powers of two. -/
theorem log2_bounds (hn : 0 < n) :
    (2 : ℚ) ^ (n.log2 : Int) ≤ n ∧ (n : ℚ) < 2 ^ ((n.log2 : Int) + 1) := by
  have hleast := Nat.log2_self_le (Nat.ne_of_gt hn)
  have hgreatest := Nat.lt_log2_self (n := n)
  rw [zpow_natCast, show ((n.log2 : Int) + 1) = ((n.log2 + 1 : Nat) : Int) from rfl, zpow_natCast]
  exact ⟨by exact_mod_cast hleast, by exact_mod_cast hgreatest⟩

/-- A quotient is less than a factor apart from that of the powers below. -/
theorem quotient_bounds {base a b : ℚ} (hbase : 0 < base) {i j : Int}
    (ha : base ^ i ≤ a ∧ a < base ^ (i + 1)) (hb : base ^ j ≤ b ∧ b < base ^ (j + 1)) :
    base ^ (i - j - 1) ≤ a / b ∧ a / b < base ^ (i - j + 1) := by
  have hpos : 0 < b := lt_of_lt_of_le (zpow_pos hbase j) hb.1
  constructor
  · rw [le_div_iff₀ hpos]
    calc base ^ (i - j - 1) * b
        ≤ base ^ (i - j - 1) * base ^ (j + 1) :=
          mul_le_mul_of_nonneg_left hb.2.le (zpow_pos hbase _).le
      _ = base ^ i := by rw [← zpow_add₀ hbase.ne']; congr 1; ring
      _ ≤ a := ha.1
  · rw [div_lt_iff₀ hpos]
    calc a < base ^ (i + 1) := ha.2
      _ = base ^ (i - j + 1) * base ^ j := by rw [← zpow_add₀ hbase.ne']; congr 1; ring
      _ ≤ base ^ (i - j + 1) * b := mul_le_mul_of_nonneg_left hb.1 (zpow_pos hbase _).le

/-- Fractions that are not too small are written with 53 bits. -/
theorem exponentOf_bounds (hn : 0 < n) (hd : 0 < d) (hq : (n : ℚ) / d = q)
    (hleast : 2 ^ (-1000 : Int) ≤ q) :
    2 ^ (exponentOf n d + 52) ≤ q ∧ q < 2 ^ (exponentOf n d + 53) := by
  obtain ⟨hlow, hhigh⟩ := quotient_bounds two_pos (log2_bounds hn) (log2_bounds hd)
  rw [hq] at hlow hhigh
  generalize hguess : (n.log2 : Int) - d.log2 - 52 = guess at *
  have hscaledPos : (0 : ℚ) < (scaledBy guess n d).2 := Nat.cast_pos.2 (scaledBy_pos guess n hd)
  -- the guess is one too much exactly for the fractions in the lower half
  have htest : (scaledBy guess n d).1 < twoTo 52 * (scaledBy guess n d).2 ↔
      q < 2 ^ (guess + 52) := by
    rw [← Nat.cast_lt (α := ℚ), Nat.cast_mul, ← div_lt_iff₀ hscaledPos, scaledBy_eq, hq,
      div_lt_iff₀ (zpow_pos two_pos guess), twoTo_eq, add_comm guess, zpow_add₀ two_ne_zero]
    norm_cast
  have hbounds : ∀ e : Int, 2 ^ (e + 52) ≤ q → q < 2 ^ (e + 53) →
      2 ^ (max e (-1074) + 52) ≤ q ∧ q < 2 ^ (max e (-1074) + 53) := by
    intro e hleastE hgreatestE
    have he : (-1000 : Int) < e + 53 :=
      (zpow_lt_zpow_iff_right₀ one_lt_two).1 (lt_of_le_of_lt hleast hgreatestE)
    rw [max_eq_left (by omega)]
    exact ⟨hleastE, hgreatestE⟩
  rw [exponentOf]
  simp only [hguess]
  split
  · rename_i hless
    refine hbounds _ ?_ ?_
    · exact le_trans (zpow_le_zpow_right₀ one_le_two (by omega)) hlow
    · exact lt_of_lt_of_le (htest.1 hless) (zpow_le_zpow_right₀ one_le_two (by omega))
  · rename_i hmore
    refine hbounds _ (not_lt.1 fun h => hmore (htest.2 h)) ?_
    exact lt_of_lt_of_le hhigh (zpow_le_zpow_right₀ one_le_two (by omega))

/-! ## The nearest number -/

/-- `x.low` is the lower end of the numbers that are rounded to `x`, in quarters of its unit. Below
the least mantissa the next number is only half a unit away. -/
def low (x : Binary64) : ℚ :=
  if x.mantissa = 2 ^ 52 ∧ -1074 < x.exponent then 4 * x.mantissa - 1 else 4 * x.mantissa - 2

/-- The least number that rounds to a mantissa lies below it. -/
theorem low_le (x : Binary64) : x.low ≤ 4 * x.mantissa - 1 := by
  rw [low]
  split <;> linarith

/-- `x.quarters q` is `q` in quarters of the unit of `x`. -/
def quarters (x : Binary64) (q : ℚ) : ℚ := q / 2 ^ (x.exponent - 2)

/-- `x.Covers q` says that `q` is rounded to `x`: it is not farther than half way to a neighbour,
and half way only if the mantissa is even. -/
def Covers (x : Binary64) (q : ℚ) : Prop :=
  if x.mantissa % 2 = 0 then x.low ≤ x.quarters q ∧ x.quarters q ≤ 4 * x.mantissa + 2
  else x.low < x.quarters q ∧ x.quarters q < 4 * x.mantissa + 2

/-- `Nearest q x` says that `x` has 53 bits and is the number nearest to `q`. -/
structure Nearest (q : ℚ) (x : Binary64) : Prop where
  least : 2 ^ 52 ≤ x.mantissa
  greatest : x.mantissa < 2 ^ 53
  covers : x.Covers q
  error : |x.absolute - q| ≤ q / 2 ^ 53

/-- The number nearest to one in range is not zero. -/
theorem Nearest.isZero_eq_false {x : Binary64} (h : Nearest q x) : x.isZero = false := by
  have := h.least
  rw [isZero, beq_eq_false_iff_ne]
  omega

/-- The nearest number is one of absolute values. -/
theorem Nearest.withSign {x : Binary64} (h : Nearest q x) (negative : Bool) :
    Nearest q { x with negative } :=
  ⟨h.least, h.greatest, h.covers, h.error⟩

/-- The rounded quotient in terms of the quotient. -/
theorem roundHalfEven_cast {y : ℚ} (hd : 0 < d) (hy : (n : ℚ) / d = y) :
    (roundHalfEven n d : ℚ) ≤ y + 1 / 2 ∧ y ≤ roundHalfEven n d + 1 / 2 ∧
      ((roundHalfEven n d : ℚ) = y + 1 / 2 ∨ y = roundHalfEven n d + 1 / 2 →
        roundHalfEven n d % 2 = 0) := by
  obtain ⟨hlow, hhigh⟩ := roundHalfEven_near (n := n) hd
  have heven := roundHalfEven_even (n := n) hd
  generalize roundHalfEven n d = r at *
  have hd' : (0 : ℚ) < d := Nat.cast_pos.2 hd
  have hn : (n : ℚ) = y * d := (div_eq_iff hd'.ne').1 hy
  have hlow' : 2 * ((r : ℚ) * d) ≤ 2 * (y * d) + d := by rw [← hn]; exact_mod_cast hlow
  have hhigh' : 2 * (y * d) ≤ 2 * ((r : ℚ) * d) + d := by rw [← hn]; exact_mod_cast hhigh
  refine ⟨?_, ?_, ?_⟩
  · exact le_of_mul_le_mul_right (by linarith) hd'
  · exact le_of_mul_le_mul_right (by linarith) hd'
  · rintro (hup | hdown)
    · refine heven (Or.inl ?_)
      rw [← Nat.cast_inj (R := ℚ)]
      push_cast
      rw [hup, hn]
      ring
    · refine heven (Or.inr ?_)
      rw [← Nat.cast_inj (R := ℚ)]
      push_cast
      rw [hn, hdown]
      ring

section

variable {negative : Bool} {e : Int} {y : ℚ} {r : Nat}

/-- A quotient of 53 bits that is rounded to an integer of 53 bits is rounded to the nearest
number. -/
theorem nearest_of_mantissa (hq : q = y * 2 ^ e) (hy : 2 ^ 52 ≤ y) (hleast : 2 ^ 52 ≤ r)
    (hgreatest : r < 2 ^ 53) (hlow : (r : ℚ) ≤ y + 1 / 2) (hhigh : y ≤ r + 1 / 2)
    (heven : (r : ℚ) = y + 1 / 2 ∨ y = r + 1 / 2 → r % 2 = 0) : Nearest q ⟨negative, r, e⟩ := by
  have hpower : (0 : ℚ) < 2 ^ e := zpow_pos two_pos e
  have hquarters : quarters ⟨negative, r, e⟩ q = 4 * y := by
    rw [quarters, hq, zpow_sub₀ two_ne_zero]
    field_simp
    norm_num
  refine ⟨hleast, hgreatest, ?_, ?_⟩
  · have hend : low ⟨negative, r, e⟩ ≤ 4 * y ∧ (low ⟨negative, r, e⟩ = 4 * y → r % 2 = 0) := by
      simp only [low]
      split
      · rename_i hpower
        have hr : (r : ℚ) = 2 ^ 52 := by exact_mod_cast hpower.1
        exact ⟨by linarith, fun h => by linarith⟩
      · exact ⟨by linarith, fun h => heven (Or.inl (by linarith))⟩
    rw [Covers, hquarters]
    split
    · exact ⟨hend.1, by simp only; linarith⟩
    · rename_i hodd
      refine ⟨lt_of_le_of_ne hend.1 fun h => hodd (hend.2 h), ?_⟩
      refine lt_of_le_of_ne (by simp only; linarith) fun h => hodd (heven (Or.inr ?_))
      simp only at h
      linarith
  · rw [absolute, hq, ← sub_mul, abs_mul, abs_of_pos hpower, mul_div_right_comm]
    refine mul_le_mul_of_nonneg_right ?_ hpower.le
    have hhalf : (1 / 2 : ℚ) ≤ y / 2 ^ 53 := by
      rw [le_div_iff₀ (by positivity)]
      linarith
    exact le_trans (abs_le.2 ⟨by linarith, by linarith⟩) hhalf

/-- A quotient of 53 bits that is rounded to the next power of two is rounded to the nearest
number. -/
theorem nearest_of_carry (hq : q = y * 2 ^ e) (hy : 2 ^ 53 ≤ y + 1 / 2) (hless : y < 2 ^ 53) :
    Nearest q ⟨negative, 2 ^ 52, e + 1⟩ := by
  have hpower : (0 : ℚ) < 2 ^ e := zpow_pos two_pos e
  have hquarters : quarters ⟨negative, 2 ^ 52, e + 1⟩ q = 2 * y := by
    rw [quarters, hq, zpow_sub₀ two_ne_zero, zpow_add_one₀ two_ne_zero]
    field_simp
  refine ⟨le_refl _, by simp only; norm_num, ?_, ?_⟩
  · have hend := low_le ⟨negative, 2 ^ 52, e + 1⟩
    have heven : 2 ^ 52 % 2 = 0 := by norm_num
    rw [Covers, hquarters, if_pos heven]
    push_cast at hend ⊢
    exact ⟨by linarith, by linarith⟩
  · have habsolute : absolute ⟨negative, 2 ^ 52, e + 1⟩ = 2 ^ 53 * 2 ^ e := by
      rw [absolute, zpow_add_one₀ two_ne_zero]
      push_cast
      ring
    rw [habsolute, hq, ← sub_mul, abs_mul, abs_of_pos hpower, mul_div_right_comm]
    refine mul_le_mul_of_nonneg_right ?_ hpower.le
    have hhalf : (1 / 2 : ℚ) - 1 / 2 ^ 54 ≤ y / 2 ^ 53 := by
      rw [le_div_iff₀ (by positivity)]
      linarith
    rw [abs_of_pos (by linarith)]
    linarith

end

/-- `InRange q` says that `q` is neither too small for 53 bits nor too large. -/
structure InRange (q : ℚ) : Prop where
  least : 2 ^ (-1000 : Int) ≤ q
  greatest : q ≤ 2 ^ (1000 : Int)

/-- Numbers between the bounds are in range. -/
theorem inRange_of_bounds (hleast : 1 / 10 ^ 30 ≤ q) (hgreatest : q ≤ 10 ^ 40) : InRange q := by
  constructor
  · calc (2 : ℚ) ^ (-1000 : Int) ≤ 2 ^ (-100 : Int) :=
          zpow_le_zpow_right₀ one_le_two (by decide)
      _ ≤ 1 / 10 ^ 30 := by norm_num
      _ ≤ q := hleast
  · calc q ≤ 10 ^ 40 := hgreatest
      _ ≤ 2 ^ (200 : Int) := by norm_num
      _ ≤ 2 ^ (1000 : Int) := zpow_le_zpow_right₀ one_le_two (by decide)

/-- What is near to a number in range is in range. -/
theorem inRange_of_near {a δ : ℚ} (hδ : δ ≤ 1 / 4) (hleast : 1 / 10 ^ 29 ≤ a)
    (hgreatest : a ≤ 10 ^ 39) (h : |q - a| ≤ δ * a) : InRange q := by
  obtain ⟨hlow, hhigh⟩ := abs_le.1 h
  have ha : 0 ≤ a := le_trans (by positivity) hleast
  have hsmall : δ * a ≤ 1 / 4 * a := mul_le_mul_of_nonneg_right hδ ha
  exact inRange_of_bounds (by linarith) (by linarith)

/-- A fraction in range is rounded to the nearest number. -/
theorem exists_round (hd : 0 < d) (hq : (n : ℚ) / d = q) (hrange : InRange q) (negative : Bool) :
    ∃ x, round negative n d = some x ∧ Nearest q x := by
  have hn : 0 < n := by
    refine Nat.pos_of_ne_zero fun hzero => ?_
    have hpos : 0 < q := lt_of_lt_of_le (zpow_pos two_pos _) hrange.least
    rw [← hq, hzero, Nat.cast_zero, zero_div] at hpos
    exact lt_irrefl 0 hpos
  obtain ⟨hlow, hhigh⟩ := exponentOf_bounds hn hd hq hrange.least
  have hscaledPos := scaledBy_pos (exponentOf n d) n hd
  have hscaled := scaledBy_eq (exponentOf n d) n d
  rw [round, if_neg (Nat.ne_of_gt hn)]
  dsimp only
  generalize exponentOf n d = e at *
  generalize scaledBy e n d = scaled at *
  obtain ⟨a, b⟩ := scaled
  have hpower : (0 : ℚ) < 2 ^ e := zpow_pos two_pos e
  -- the exponent is that of a number below the greatest
  have he : e + 52 ≤ 1000 :=
    (zpow_le_zpow_iff_right₀ (a := (2 : ℚ)) one_lt_two).1 (le_trans hlow hrange.greatest)
  have hy : 2 ^ 52 ≤ q / 2 ^ e ∧ q / 2 ^ e < 2 ^ 53 := by
    rw [le_div_iff₀ hpower, div_lt_iff₀ hpower]
    rw [zpow_add₀ two_ne_zero, mul_comm] at hlow hhigh
    exact ⟨by exact_mod_cast hlow, by exact_mod_cast hhigh⟩
  have hqy : q = q / 2 ^ e * 2 ^ e := (div_mul_cancel₀ q hpower.ne').symm
  rw [hq] at hscaled
  generalize q / 2 ^ e = y at hy hqy hscaled
  obtain ⟨hnearLow, hnearHigh, heven⟩ := roundHalfEven_cast hscaledPos hscaled
  generalize roundHalfEven a b = r at *
  have hleastR : 2 ^ 52 ≤ r := by
    have hr : ((2 ^ 52 - 1 : Nat) : ℚ) < r := by push_cast; linarith [hy.1]
    have := Nat.cast_lt.1 hr
    omega
  have hgreatestR : r ≤ 2 ^ 53 := by
    have hr : (r : ℚ) < ((2 ^ 53 + 1 : Nat) : ℚ) := by push_cast; linarith [hy.2]
    have := Nat.cast_lt.1 hr
    omega
  by_cases hcarry : r = twoTo 53
  · rw [if_pos hcarry, if_pos (by dsimp only; omega)]
    refine ⟨_, rfl, nearest_of_carry hqy ?_ hy.2⟩
    rw [hcarry, twoTo_eq] at hnearLow
    exact_mod_cast hnearLow
  · rw [if_neg hcarry, if_pos (by dsimp only; omega)]
    exact ⟨_, rfl, nearest_of_mantissa hqy hy.1 hleastR (lt_of_le_of_ne hgreatestR hcarry)
      hnearLow hnearHigh heven⟩

/-! ## Exact numbers -/

/-- The exponent of an integer of 53 bits and a power of two leaves an integer. -/
theorem scaledBy_multiple {k j : Nat} {e : Int} (he : e ≤ j) :
    ∃ m b, 0 < b ∧ scaledBy e (k * 2 ^ j) 1 = (m * b, b) := by
  cases e with
  | ofNat i =>
      have hi : i ≤ j := Int.ofNat_le.1 he
      refine ⟨k * 2 ^ (j - i), 2 ^ i, Nat.pow_pos (by decide), ?_⟩
      rw [scaledBy, Nat.one_mul, Nat.mul_assoc, ← Nat.pow_add, Nat.sub_add_cancel hi, twoTo_eq]
  | negSucc i => exact ⟨k * 2 ^ j * twoTo (i + 1), 1, Nat.one_pos, by rw [scaledBy, Nat.mul_one]⟩

/-- An integer of 53 bits and a power of two is not rounded. -/
theorem exists_ofNat {k j : Nat} (hk : k < 2 ^ 53) (hj : j ≤ 900) :
    ∃ x, ofNat? (k * 2 ^ j) = some x ∧ x.absolute = k * 2 ^ j := by
  rcases Nat.eq_zero_or_pos k with rfl | hpos
  · exact ⟨⟨false, 0, -1074⟩, by simp [ofNat?, round], by simp [absolute]⟩
  · have hn : 0 < k * 2 ^ j := Nat.mul_pos hpos (Nat.pow_pos (by decide))
    have hone : (1 : ℚ) ≤ (k * 2 ^ j : Nat) := by exact_mod_cast hn
    have hless : ((k * 2 ^ j : Nat) : ℚ) < 2 ^ ((j : Int) + 53) := by
      rw [zpow_add₀ two_ne_zero, zpow_natCast, mul_comm]
      push_cast
      exact mul_lt_mul_of_pos_left (by exact_mod_cast hk) (by positivity)
    have hleast : (2 : ℚ) ^ (-1000 : Int) ≤ 1 :=
      zpow_le_one_of_nonpos₀ one_le_two (by decide)
    obtain ⟨hlow, hhigh⟩ := exponentOf_bounds hn Nat.one_pos
      (q := (k * 2 ^ j : Nat)) (by simp) (le_trans hleast hone)
    have hexponent : exponentOf (k * 2 ^ j) 1 + 52 < j + 53 :=
      (zpow_lt_zpow_iff_right₀ (one_lt_two (α := ℚ))).1 (lt_of_le_of_lt hlow hless)
    have hscaledEq := scaledBy_eq (exponentOf (k * 2 ^ j) 1) (k * 2 ^ j) 1
    obtain ⟨m, b, hb, hscaled⟩ := scaledBy_multiple (k := k)
      (show exponentOf (k * 2 ^ j) 1 ≤ j by omega)
    rw [ofNat?, round, if_neg (Nat.ne_of_gt hn)]
    dsimp only
    rw [hscaled] at hscaledEq ⊢
    generalize exponentOf (k * 2 ^ j) 1 = e at *
    have hpower : (0 : ℚ) < 2 ^ e := zpow_pos two_pos e
    have hm : (m : ℚ) * 2 ^ e = k * 2 ^ j := by
      have hb' : (b : ℚ) ≠ 0 := Nat.cast_ne_zero.2 (Nat.ne_of_gt hb)
      rw [Nat.cast_mul, mul_div_cancel_right₀ _ hb', Nat.cast_one, div_one,
        eq_div_iff hpower.ne'] at hscaledEq
      exact_mod_cast hscaledEq
    have hcarry : m ≠ twoTo 53 := by
      rintro rfl
      have hsmall : (twoTo 53 : ℚ) * 2 ^ e < 2 ^ (e + 53) := by
        rw [hm]
        exact_mod_cast hhigh
      rw [zpow_add₀ two_ne_zero, mul_comm, twoTo_eq] at hsmall
      exact absurd hsmall (by push_cast; exact lt_irrefl _)
    dsimp only
    rw [roundHalfEven_mul m hb, if_neg hcarry, if_pos (by dsimp only; omega)]
    exact ⟨_, rfl, hm⟩

/-! ## Arithmetic -/

variable {x y : Binary64}

/-- The rounded product is nearest to the product. -/
theorem exists_mul (hrange : InRange (x.absolute * y.absolute)) :
    ∃ z, x.mul? y = some z ∧ Nearest (x.absolute * y.absolute) z := by
  have hmul : x.mul? y = round (x.negative != y.negative) (x.magnitude.1 * y.magnitude.1)
      (x.magnitude.2 * y.magnitude.2) := rfl
  rw [hmul]
  refine exists_round (Nat.mul_pos x.magnitude_pos y.magnitude_pos) ?_ hrange _
  rw [Nat.cast_mul, Nat.cast_mul, mul_div_mul_comm, magnitude_eq, magnitude_eq]

/-- What is not divided by zero is divided exactly and rounded. -/
theorem div_eq (h : y.absolute ≠ 0) :
    x.div? y = round (x.negative != y.negative) (x.magnitude.1 * y.magnitude.2)
      (x.magnitude.2 * y.magnitude.1) :=
  if_neg (magnitude_ne_zero h)

/-- The rounded quotient is nearest to the quotient. -/
theorem exists_div (hrange : InRange (x.absolute / y.absolute)) :
    ∃ z, x.div? y = some z ∧ Nearest (x.absolute / y.absolute) z := by
  have hdivisor : y.absolute ≠ 0 := by
    intro hzero
    have hpos := lt_of_lt_of_le (zpow_pos two_pos _) hrange.least
    rw [hzero, div_zero] at hpos
    exact lt_irrefl 0 hpos
  rw [div_eq hdivisor]
  refine exists_round (Nat.mul_pos x.magnitude_pos (Nat.pos_of_ne_zero (magnitude_ne_zero hdivisor)))
    ?_ hrange _
  rw [Nat.cast_mul, Nat.cast_mul, ← magnitude_eq x, ← magnitude_eq y, div_div_div_eq]

/-- Zero divided is zero. -/
theorem exists_zero_div (h : y.absolute ≠ 0) : ∃ z, zero.div? y = some z ∧ z.isZero := by
  have hzero : zero.magnitude.1 = 0 := rfl
  refine ⟨⟨zero.negative != y.negative, 0, -1074⟩, ?_, rfl⟩
  rw [div_eq h, hzero, Nat.zero_mul, round, if_pos rfl]

/-- The rounded sum of the absolute values is nearest to their sum. -/
theorem exists_addMagnitudes (hrange : InRange (x.absolute + y.absolute)) :
    ∃ z, x.addMagnitudes? y = some z ∧ Nearest (x.absolute + y.absolute) z := by
  have hadd : x.addMagnitudes? y = round false
      (x.magnitude.1 * y.magnitude.2 + y.magnitude.1 * x.magnitude.2)
      (x.magnitude.2 * y.magnitude.2) := rfl
  rw [hadd]
  refine exists_round (Nat.mul_pos x.magnitude_pos y.magnitude_pos) ?_ hrange _
  have hx : (x.magnitude.2 : ℚ) ≠ 0 := Nat.cast_ne_zero.2 (Nat.ne_of_gt x.magnitude_pos)
  have hy : (y.magnitude.2 : ℚ) ≠ 0 := Nat.cast_ne_zero.2 (Nat.ne_of_gt y.magnitude_pos)
  rw [← magnitude_eq x, ← magnitude_eq y, div_add_div _ _ hx hy]
  push_cast
  ring

/-- Rounding what is near to a number adds half a unit of the last place, and a little. -/
theorem Nearest.error_trans {a δ : ℚ} (h : Nearest q x) (ha : 0 ≤ a) (hδ : δ ≤ 1 / 4)
    (hq : |q - a| ≤ δ * a) : |x.absolute - a| ≤ (δ + 5 / 2 ^ 55) * a := by
  obtain ⟨_, hqhigh⟩ := abs_le.1 hq
  have hsmall : δ * a ≤ 1 / 4 * a := mul_le_mul_of_nonneg_right hδ ha
  calc |x.absolute - a| ≤ |x.absolute - q| + |q - a| := abs_sub_le _ _ _
    _ ≤ q / 2 ^ 53 + δ * a := add_le_add h.error hq
    _ ≤ (5 / 4 * a) / 2 ^ 53 + δ * a := by
        gcongr
        linarith
    _ = (δ + 5 / 2 ^ 55) * a := by ring

end Reshape.Binary64
