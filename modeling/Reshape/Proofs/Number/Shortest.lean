import Reshape.Proofs.Number.Binary64
import Reshape.Proofs.Number.Digits

/-!
# Shortest digits

The shortest digits of the binary64 number nearest to a decimal of up to fifteen digits write the
decimal (`shortest_writes`). For its last place is worth more than the unit of that number, so that
decimals with this last place or a higher one are farther apart than what is rounded to the number.
-/

namespace Reshape

namespace Binary64

/-! ## Decimal points -/

/-- Both parts of a power are positive. -/
theorem powerFraction_pos {b : Nat} (hb : 0 < b) (e : Int) :
    0 < (powerFraction b e).1 ∧ 0 < (powerFraction b e).2 := by
  cases e with
  | ofNat k => exact ⟨Nat.pow_pos hb, Nat.one_pos⟩
  | negSucc k => exact ⟨Nat.one_pos, Nat.pow_pos hb⟩

/-- The two parts of a power make a fraction that is the power. -/
theorem powerFraction_eq (b : Nat) (e : Int) :
    ((powerFraction b e).1 : ℚ) / (powerFraction b e).2 = (b : ℚ) ^ e := by
  cases e with
  | ofNat k => simp [powerFraction]
  | negSucc k => simp [powerFraction, zpow_negSucc]

/-- Fractions are compared by multiplying crosswise. -/
theorem mul_le_mul_crosswise {a b c d : Nat} {x y : ℚ} (hb : 0 < b) (hd : 0 < d)
    (hx : (a : ℚ) / b = x) (hy : (c : ℚ) / d = y) : a * d ≤ c * b ↔ x ≤ y := by
  rw [← hx, ← hy, div_le_div_iff₀ (Nat.cast_pos.2 hb) (Nat.cast_pos.2 hd)]
  norm_cast

/-- Fractions are compared by multiplying crosswise. -/
theorem mul_lt_mul_crosswise {a b c d : Nat} {x y : ℚ} (hb : 0 < b) (hd : 0 < d)
    (hx : (a : ℚ) / b = x) (hy : (c : ℚ) / d = y) : a * d < c * b ↔ x < y := by
  rw [← hx, ← hy, div_lt_div_iff₀ (Nat.cast_pos.2 hb) (Nat.cast_pos.2 hd)]
  norm_cast

/-- A positive natural number has as many digits as its order of magnitude says. -/
theorem decimalLength_bounds {n : Nat} (hn : 0 < n) :
    (10 : ℚ) ^ ((decimalLength n : Int) - 1) ≤ n ∧
      (n : ℚ) < 10 ^ ((decimalLength n : Int) - 1 + 1) := by
  have hpos : 0 < decimalLength n := Nat.length_toDigits_pos
  obtain ⟨k, hk⟩ : ∃ k, decimalLength n = k + 1 := ⟨decimalLength n - 1, by omega⟩
  have hless : n < 10 ^ (k + 1) :=
    (Nat.length_toDigits_le_iff (by decide) (Nat.succ_pos k)).1 (Nat.le_of_eq hk)
  have hmore : 10 ^ (decimalLength n - 1) ≤ n := pow_le_of_length hn
  rw [hk, Nat.add_sub_cancel] at hmore
  rw [hk, Nat.cast_succ, add_sub_cancel_right, zpow_natCast, ← Nat.cast_succ, zpow_natCast]
  exact ⟨by exact_mod_cast hmore, by exact_mod_cast hless⟩

/-- The decimal point stands where the order of magnitude says. -/
theorem decimalPoint_bounds {n d : Nat} {q : ℚ} (hn : 0 < n) (hd : 0 < d) (hq : (n : ℚ) / d = q) :
    (10 : ℚ) ^ (decimalPoint n d - 1) ≤ q ∧ q < 10 ^ decimalPoint n d := by
  obtain ⟨hlow, hhigh⟩ := quotient_bounds (by norm_num) (decimalLength_bounds hn)
    (decimalLength_bounds hd)
  rw [hq] at hlow hhigh
  rw [decimalPoint]
  dsimp only
  generalize hguess : (decimalLength n : Int) - decimalLength d = guess
  obtain ⟨hnumerator, hdenominator⟩ := powerFraction_pos (b := 10) (by decide) guess
  -- the guess is one too little exactly for the fractions from that power of ten
  have htest : n * (powerFraction 10 guess).2 < (powerFraction 10 guess).1 * d ↔
      q < 10 ^ guess :=
    mul_lt_mul_crosswise hd hdenominator hq (powerFraction_eq 10 guess)
  split
  · rename_i hless
    refine ⟨?_, htest.1 hless⟩
    convert hlow using 2
    omega
  · rename_i hmore
    rw [add_sub_cancel_right]
    refine ⟨not_lt.1 fun h => hmore (htest.2 h), ?_⟩
    convert hhigh using 2
    omega

/-! ## Points of a grid -/

variable {x : Binary64} {c : Nat} {unit : Int} {q : ℚ}

/-- The lower end of the test for reading back is that of the numbers that are rounded to `x`. -/
theorem low_cast (hleast : 2 ^ 52 ≤ x.mantissa) :
    ((if x.mantissa = twoTo 52 && x.exponent > -1074 then 4 * x.mantissa - 1
      else 4 * x.mantissa - 2 : Nat) : ℚ) = x.low := by
  have hone : 1 ≤ 4 * x.mantissa := by omega
  have htwo : 2 ≤ 4 * x.mantissa := by omega
  have htest : (x.mantissa = twoTo 52 && x.exponent > -1074) = true ↔
      x.mantissa = 2 ^ 52 ∧ -1074 < x.exponent := by
    rw [Bool.and_eq_true, decide_eq_true_iff, decide_eq_true_iff]
    exact Iff.rfl
  rw [low]
  by_cases h : x.mantissa = 2 ^ 52 ∧ -1074 < x.exponent
  · rw [if_pos (htest.2 h), if_pos h, Nat.cast_sub hone]
    push_cast
    rfl
  · rw [if_neg (mt htest.1 h), if_neg h, Nat.cast_sub htwo]
    push_cast
    rfl

/-- A decimal passes the test for reading back if it is rounded to `x`. -/
theorem readsBack_iff (hleast : 2 ^ 52 ≤ x.mantissa) :
    x.readsBack c unit ↔ x.Covers (c * 10 ^ unit) := by
  obtain ⟨_, hgrid⟩ := powerFraction_pos (b := 10) (by decide) unit
  obtain ⟨_, hstep⟩ := powerFraction_pos (b := 2) (by decide) (x.exponent - 2)
  have hpower : (0 : ℚ) < 2 ^ (x.exponent - 2) := zpow_pos two_pos _
  have hpoint : ((c * (powerFraction 10 unit).1 : Nat) : ℚ) / (powerFraction 10 unit).2 =
      c * 10 ^ unit := by
    rw [Nat.cast_mul, mul_div_assoc, powerFraction_eq]
    rfl
  have hend : ∀ m : Nat, ((m * (powerFraction 2 (x.exponent - 2)).1 : Nat) : ℚ) /
      (powerFraction 2 (x.exponent - 2)).2 = m * 2 ^ (x.exponent - 2) := by
    intro m
    rw [Nat.cast_mul, mul_div_assoc, powerFraction_eq]
    rfl
  have hhigh : ((4 * x.mantissa + 2 : Nat) : ℚ) = 4 * x.mantissa + 2 := by push_cast; rfl
  rw [readsBack, Covers, quarters, ← low_cast hleast, ← hhigh]
  dsimp only
  generalize (if x.mantissa = twoTo 52 && x.exponent > -1074 then 4 * x.mantissa - 1
    else 4 * x.mantissa - 2) = lowest
  split
  · rw [Bool.and_eq_true, decide_eq_true_iff, decide_eq_true_iff,
      mul_le_mul_crosswise hstep hgrid (hend _) hpoint,
      mul_le_mul_crosswise hgrid hstep hpoint (hend _), le_div_iff₀ hpower, div_le_iff₀ hpower]
  · rw [Bool.and_eq_true, decide_eq_true_iff, decide_eq_true_iff,
      mul_lt_mul_crosswise hstep hgrid (hend _) hpoint,
      mul_lt_mul_crosswise hgrid hstep hpoint (hend _), lt_div_iff₀ hpower, div_lt_iff₀ hpower]

/-- What is rounded to `x` is at most two quarters of a unit away. -/
theorem quarters_bounds (h : x.Covers q) :
    4 * x.mantissa - 2 ≤ x.quarters q ∧ x.quarters q ≤ 4 * x.mantissa + 2 := by
  have hlow : 4 * x.mantissa - 2 ≤ x.low := by
    rw [low]
    split <;> linarith
  rw [Covers] at h
  split at h
  · exact ⟨hlow.trans h.1, h.2⟩
  · exact ⟨hlow.trans h.1.le, h.2.le⟩

theorem eq_quarters (x : Binary64) (q : ℚ) : q = x.quarters q * 2 ^ (x.exponent - 2) :=
  (div_mul_cancel₀ q (zpow_pos two_pos _).ne').symm

theorem two_zpow_eq (e : Int) : (2 : ℚ) ^ e = 4 * 2 ^ (e - 2) := by
  rw [zpow_sub₀ two_ne_zero]
  field_simp
  norm_num

/-- What is rounded to one number is at most a unit apart. -/
theorem abs_sub_le_of_covers {a b : ℚ} (ha : x.Covers a) (hb : x.Covers b) :
    |a - b| ≤ 2 ^ x.exponent := by
  obtain ⟨halow, hahigh⟩ := quarters_bounds ha
  obtain ⟨hblow, hbhigh⟩ := quarters_bounds hb
  have hpower : (0 : ℚ) < 2 ^ (x.exponent - 2) := zpow_pos two_pos _
  have heqa := eq_quarters x a
  have heqb := eq_quarters x b
  rw [two_zpow_eq x.exponent]
  generalize (2 : ℚ) ^ (x.exponent - 2) = unit at *
  rw [heqa, heqb, ← sub_mul, abs_mul, abs_of_pos hpower]
  exact mul_le_mul_of_nonneg_right (abs_le.2 ⟨by linarith, by linarith⟩) hpower.le

/-- What is rounded to `x` is less than a unit away. -/
theorem abs_absolute_sub_lt (h : x.Covers q) : |x.absolute - q| < 2 ^ x.exponent := by
  obtain ⟨hlow, hhigh⟩ := quarters_bounds h
  have hpower : (0 : ℚ) < 2 ^ (x.exponent - 2) := zpow_pos two_pos _
  have heq := eq_quarters x q
  rw [absolute, two_zpow_eq x.exponent]
  generalize (2 : ℚ) ^ (x.exponent - 2) = unit at *
  rw [heq, ← mul_assoc, ← sub_mul, abs_mul, abs_of_pos hpower]
  exact mul_lt_mul_of_pos_right (abs_lt.2 ⟨by linarith, by linarith⟩) hpower

/-- A point that is found on a grid is rounded to `x`. -/
theorem covers_of_gridPoint (hleast : 2 ^ 52 ≤ x.mantissa) (h : x.gridPoint? unit = some c) :
    x.Covers (c * 10 ^ unit) := by
  rw [← readsBack_iff hleast]
  rw [gridPoint?] at h
  dsimp only at h
  split at h
  · rename_i hbelow habove
    cases h
    rcases roundHalfEven_eq_or (x.magnitude.1 * (powerFraction 10 unit).2)
      (x.magnitude.2 * (powerFraction 10 unit).1) with heq | heq
    · rw [heq, hbelow]
    · rw [heq, habove]
  · rename_i hbelow _
    cases h
    exact hbelow
  · rename_i _ habove
    cases h
    exact habove
  · cases h

/-- A point of a grid that is rounded to `x` and nearer than the next is found. -/
theorem gridPoint_isSome (hleast : 2 ^ 52 ≤ x.mantissa) (hcovers : x.Covers (c * 10 ^ unit))
    (hnear : |x.absolute - c * 10 ^ unit| < 10 ^ unit) : (x.gridPoint? unit).isSome := by
  obtain ⟨hgridPos, hgrid⟩ := powerFraction_pos (b := 10) (by decide) unit
  have hpower : (0 : ℚ) < 10 ^ unit := zpow_pos (by norm_num) _
  have hreads : x.readsBack c unit := (readsBack_iff hleast).2 hcovers
  have hdenominator : 0 < x.magnitude.2 * (powerFraction 10 unit).1 :=
    Nat.mul_pos x.magnitude_pos hgridPos
  have hvalue : ((x.magnitude.1 * (powerFraction 10 unit).2 : Nat) : ℚ) /
      (x.magnitude.2 * (powerFraction 10 unit).1 : Nat) = x.absolute / 10 ^ unit := by
    have hcast := powerFraction_eq 10 unit
    rw [← magnitude_eq, ← show ((10 : Nat) : ℚ) ^ unit = 10 ^ unit from rfl, ← hcast, Nat.cast_mul,
      Nat.cast_mul, div_div_div_eq]
  rw [gridPoint?]
  dsimp only
  generalize x.magnitude.1 * (powerFraction 10 unit).2 = a at *
  generalize x.magnitude.2 * (powerFraction 10 unit).1 = b at *
  have hb : (0 : ℚ) < b := Nat.cast_pos.2 hdenominator
  have hdistance : (a : ℚ) / b - c = (x.absolute - c * 10 ^ unit) / 10 ^ unit := by
    rw [hvalue, sub_div, mul_div_cancel_right₀ _ hpower.ne']
  obtain ⟨hmore, hless⟩ := abs_lt.1 hnear
  -- the point is one of the two beside `x`
  have habove : a < (c + 1) * b := by
    have hquotient : (a : ℚ) / b < c + 1 := by
      rw [← sub_lt_iff_lt_add', hdistance, div_lt_one hpower]
      exact hless
    exact_mod_cast (div_lt_iff₀ hb).1 hquotient
  have hbelow : c * b < a + b := by
    have hquotient : -1 < (a : ℚ) / b - c := by
      rw [hdistance, lt_div_iff₀ hpower, neg_one_mul]
      exact hmore
    have hsum : (c : ℚ) < (a + b) / b := by
      rw [add_div, div_self hb.ne']
      linarith
    exact_mod_cast (lt_div_iff₀ hb).1 hsum
  have hbeside : c = a / b ∨ c = a / b + 1 := by
    have hquotient := Nat.div_add_mod' a b
    have hrest := Nat.mod_lt a hdenominator
    have hleast : a / b < c + 1 := (Nat.div_lt_iff_lt_mul hdenominator).2 habove
    have hgreatest : c < a / b + 2 := by
      refine Nat.lt_of_mul_lt_mul_right (a := b) ?_
      rw [Nat.add_mul]
      omega
    omega
  rcases hbeside with rfl | rfl
  · rw [hreads]
    cases x.readsBack (a / b + 1) unit <;> rfl
  · rw [hreads]
    cases x.readsBack (a / b) unit <;> rfl

/-! ## The digits that are found -/

/-- Multiples of a unit that are less than it apart are equal. -/
theorem eq_of_multiples {a b : Nat} {unit : ℚ} (hunit : 0 < unit)
    (h : |a * unit - b * unit| < unit) : a = b := by
  rw [← sub_mul, abs_mul, abs_of_pos hunit, mul_lt_iff_lt_one_left hunit] at h
  have hdistance : |(a : Int) - b| < 1 := by exact_mod_cast h
  have := Int.abs_lt_one_iff.1 hdistance
  omega

/-- On grids that are not finer than that of a decimal which is rounded to `x`, only the decimal is
found. -/
theorem shortestFrom_writes {m n : Nat} {point least : Int} (hm : 0 < m)
    (hleast : 2 ^ 52 ≤ x.mantissa) (hcovers : x.Covers (m * 10 ^ least))
    (hgrid : (2 : ℚ) ^ x.exponent < 10 ^ least) (hn : n ≤ 17)
    (hfirst : least + (18 - n : Nat) ≤ point) (hlast : point - 17 ≤ least) :
    (x.shortestFrom point n).Writes m least := by
  have hpower : (0 : ℚ) < 10 ^ least := zpow_pos (by norm_num) _
  induction n with
  | zero => omega
  | succ n ih =>
      rw [shortestFrom]
      dsimp only
      cases hpoint : x.gridPoint? (point - (17 - n : Nat)) with
      | some c =>
          obtain ⟨k, hk⟩ := Int.eq_ofNat_of_zero_le
            (show 0 ≤ point - (17 - n : Nat) - least by omega)
          have hcoarse : (10 : ℚ) ^ (point - (17 - n : Nat)) = 10 ^ k * 10 ^ least := by
            rw [← zpow_natCast, ← zpow_add₀ (by norm_num)]
            congr 1
            omega
          have hdistance := abs_sub_le_of_covers (covers_of_gridPoint hleast hpoint) hcovers
          rw [hcoarse, ← mul_assoc] at hdistance
          have hsame : c * 10 ^ k = m := by
            refine eq_of_multiples hpower ?_
            push_cast
            exact lt_of_le_of_lt hdistance hgrid
          have hc : 0 < c := Nat.pos_of_mul_pos_right (hsame ▸ hm)
          exact writes_trimZeros hc (by omega) hsame
      | none =>
          have hnot : least ≠ point - (17 - n : Nat) := by
            intro heq
            have hfound := gridPoint_isSome hleast hcovers
              ((abs_absolute_sub_lt hcovers).trans hgrid)
            rw [heq, hpoint] at hfound
            cases hfound
          exact ih (by omega) (by omega)

/-- A decimal of two or more units of its last place, and of up to fifteen digits, is written by the
shortest digits of the nearest number. -/
theorem shortest_writes {m : Nat} {least : Int} (htwo : 2 ≤ m) (hm : m < 10 ^ 15)
    (h : x.Nearest (m * 10 ^ least)) : x.shortest.Writes m least := by
  have hpower : (0 : ℚ) < 10 ^ least := zpow_pos (by norm_num) _
  have hmlow : (2 : ℚ) ≤ m := by exact_mod_cast htwo
  have hmhigh : (m : ℚ) < 10 ^ 15 := by exact_mod_cast hm
  obtain ⟨hbelow, habove⟩ := abs_le.1 h.error
  have hlow : (10 : ℚ) ^ least ≤ x.absolute := by nlinarith
  have hhigh : x.absolute < 10 ^ 16 * 10 ^ least := by nlinarith
  have hgrid : (2 : ℚ) ^ x.exponent < 10 ^ least := by
    have hmantissa : (2 : ℚ) ^ 52 ≤ x.mantissa := by exact_mod_cast h.least
    have hunit : (0 : ℚ) < 2 ^ x.exponent := zpow_pos two_pos _
    rw [absolute] at habove
    nlinarith
  have hnumerator : 0 < x.magnitude.1 :=
    Nat.pos_of_ne_zero (magnitude_ne_zero (lt_of_lt_of_le hpower hlow).ne')
  obtain ⟨hpointLow, hpointHigh⟩ := decimalPoint_bounds hnumerator x.magnitude_pos x.magnitude_eq
  have hfirst : least < decimalPoint x.magnitude.1 x.magnitude.2 :=
    (zpow_lt_zpow_iff_right₀ (by norm_num)).1 (lt_of_le_of_lt hlow hpointHigh)
  have hlast : decimalPoint x.magnitude.1 x.magnitude.2 - 1 < 16 + least := by
    refine (zpow_lt_zpow_iff_right₀ (a := (10 : ℚ)) (by norm_num)).1 ?_
    rw [zpow_add₀ (by norm_num)]
    exact lt_of_le_of_lt hpointLow hhigh
  change (x.shortestFrom (decimalPoint x.magnitude.1 x.magnitude.2) 17).Writes m least
  exact shortestFrom_writes (by omega) h.least h.covers hgrid (le_refl _) (by omega) (by omega)

end Binary64

end Reshape
