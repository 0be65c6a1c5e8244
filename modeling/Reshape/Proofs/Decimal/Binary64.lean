import Reshape.Decimal.Binary64
import Reshape.Proofs.Decimal.Rational
import Reshape.Proofs.Number.Binary64

/-!
# Decimals in binary64

A decimal of up to fifteen digits and up to 22 places is converted to the binary64 number nearest to
it (`exists_magnitude64`): the whole part, the places and the power of ten are exact, and the errors
of the three roundings after them are too small to change the integer to which the places are cut.
-/

namespace Reshape.Decimal

open Binary64 (Nearest inRange_of_bounds inRange_of_near exists_round exists_ofNat exists_mul
  exists_div exists_zero_div exists_addMagnitudes)

/-- Up to 22 places, the power of ten has 53 bits beside its power of two. -/
theorem exists_ofTenTo {s : Nat} (hs : s ≤ 22) :
    ∃ x, Binary64.ofNat? (tenTo s) = some x ∧ x.absolute = 10 ^ s := by
  have hfive : 5 ^ s < 2 ^ 53 := lt_of_le_of_lt (Nat.pow_le_pow_right (by decide) hs) (by decide)
  have hten : tenTo s = 5 ^ s * 2 ^ s := by rw [tenTo_eq, ← Nat.mul_pow]
  obtain ⟨x, hx, habsolute⟩ := exists_ofNat hfive (show s ≤ 900 by omega)
  refine ⟨x, hten ▸ hx, ?_⟩
  rw [habsolute]
  push_cast
  rw [← mul_pow]
  norm_num

/-- Up to 22 places, squaring finds the power of ten. -/
theorem powerBySquaring_ten : ∀ s ≤ 22,
    (do powerBySquaring? 5 (← Binary64.ofNat? 10) s (← Binary64.ofNat? 1)) =
      Binary64.ofNat? (tenTo s) := by
  decide +kernel

theorem exists_powerBySquaring {s : Nat} {power : Binary64} (hs : s ≤ 22)
    (h : Binary64.ofNat? (tenTo s) = some power) :
    ∃ ten one, Binary64.ofNat? 10 = some ten ∧ Binary64.ofNat? 1 = some one ∧
      powerBySquaring? 5 ten s one = some power := by
  rw [← powerBySquaring_ten s hs] at h
  obtain ⟨ten, hten, h⟩ := Option.bind_eq_some_iff.1 h
  obtain ⟨one, hone, h⟩ := Option.bind_eq_some_iff.1 h
  exact ⟨ten, one, hten, hone, h⟩

variable {n : Nat}

/-- An integer of up to fifteen digits is not rounded. -/
theorem exists_ofShort (hn : n < 10 ^ 15) :
    ∃ x, Binary64.ofNat? n = some x ∧ x.absolute = n := by
  simpa using exists_ofNat (j := 0) (lt_trans hn (by decide)) (Nat.zero_le _)

theorem exists_nearest_ofShort (hpos : 0 < n) (hn : n < 10 ^ 15) :
    ∃ x, Binary64.ofNat? n = some x ∧ Nearest n x := by
  have hleast : (1 : ℚ) ≤ n := by exact_mod_cast hpos
  have hgreatest : (n : ℚ) < 10 ^ 15 := by exact_mod_cast hn
  refine exists_round Nat.one_pos (by simp) (inRange_of_bounds ?_ ?_) _
  · exact le_trans (by norm_num) hleast
  · exact le_trans hgreatest.le (by norm_num)

/-- What is less than half from an integer is cut to it. -/
theorem wholeHalfAway_eq {x : Binary64} (h : |x.absolute - n| < 1 / 2) : wholeHalfAway x = n := by
  have hdenominator : (0 : ℚ) < x.magnitude.2 := Nat.cast_pos.2 x.magnitude_pos
  obtain ⟨hlow, hhigh⟩ := abs_lt.1 h
  rw [← x.magnitude_eq] at hlow hhigh
  have hbelow : (2 * (n * x.magnitude.2) : ℚ) < 2 * x.magnitude.1 + x.magnitude.2 := by
    rw [← div_mul_cancel₀ (x.magnitude.1 : ℚ) hdenominator.ne']
    nlinarith
  have habove : (2 * x.magnitude.1 : ℚ) < 2 * (n * x.magnitude.2) + x.magnitude.2 := by
    rw [← div_mul_cancel₀ (x.magnitude.1 : ℚ) hdenominator.ne']
    nlinarith
  exact roundHalfUp_eq (by exact_mod_cast hbelow) (by exact_mod_cast habove)

/-- Three roundings leave what is short less than half from where it was. -/
theorem exists_scaledSum {whole places factor : Binary64} {fraction : ℚ} (hpos : 0 < n)
    (hn : n < 10 ^ 15) (hwhole : 0 ≤ whole.absolute) (hplaces : Nearest fraction places)
    (hsum : whole.absolute + fraction = n / factor.absolute)
    (hleast : 1 ≤ factor.absolute) (hgreatest : factor.absolute ≤ 10 ^ 22) :
    ∃ sum product, whole.addMagnitudes? places = some sum ∧ sum.mul? factor = some product ∧
      |product.absolute - n| < 1 / 2 := by
  have hnleast : (1 : ℚ) ≤ n := by exact_mod_cast hpos
  have hngreatest : (n : ℚ) < 10 ^ 15 := by exact_mod_cast hn
  have hpower : 0 < factor.absolute := lt_of_lt_of_le one_pos hleast
  obtain ⟨value, hvalue⟩ : ∃ value, value = whole.absolute + fraction := ⟨_, rfl⟩
  have hproduct : value * factor.absolute = n := by
    rw [hvalue, hsum, div_mul_cancel₀ _ hpower.ne']
  have hvalueLeast : 1 / 10 ^ 22 ≤ value := by
    rw [hvalue, hsum]
    gcongr
  have hvalueGreatest : value ≤ 10 ^ 15 := by
    rw [hvalue, hsum]
    exact le_trans (div_le_self (by linarith) hleast) hngreatest.le
  have hexact : |whole.absolute + places.absolute - value| ≤ 1 / 2 ^ 53 * value := by
    rw [hvalue, add_sub_add_left_eq_sub]
    refine le_trans hplaces.error ?_
    rw [div_eq_inv_mul, one_div]
    gcongr
    exact le_add_of_nonneg_left hwhole
  obtain ⟨sum, hsumEq, hsumNearest⟩ := exists_addMagnitudes
    (inRange_of_near (by norm_num) (by linarith) (by linarith) hexact)
  have hsumNear : |sum.absolute * factor.absolute - n| ≤ (1 / 2 ^ 53 + 5 / 2 ^ 55) * n := by
    rw [← hproduct, ← sub_mul, abs_mul, abs_of_pos hpower, ← mul_assoc]
    exact mul_le_mul_of_nonneg_right
      (hsumNearest.error_trans (by linarith) (by norm_num) hexact) hpower.le
  obtain ⟨product, hproductEq, hproductNearest⟩ := exists_mul
    (inRange_of_near (by norm_num) (by linarith) (by linarith) hsumNear)
  refine ⟨sum, product, hsumEq, hproductEq, ?_⟩
  exact lt_of_le_of_lt (hproductNearest.error_trans (by linarith) (by norm_num) hsumNear)
    (by linarith)

section

variable {d : Decimal} (hmantissa : d.mantissa < 10 ^ 15) (hscale : d.scale ≤ 22)

include hscale

/-- A short number of places is in range. -/
theorem inRange_places (hpos : 0 < n) (hn : n < 10 ^ 15) :
    Binary64.InRange (n / 10 ^ d.scale) := by
  have hleast : (1 : ℚ) ≤ n := by exact_mod_cast hpos
  have hgreatest : (n : ℚ) < 10 ^ 15 := by exact_mod_cast hn
  refine inRange_of_bounds ?_ ?_
  · calc (1 : ℚ) / 10 ^ 30 ≤ 1 / 10 ^ 22 := by norm_num
      _ ≤ (n : ℚ) / 10 ^ d.scale := by
        gcongr
        norm_num
  · calc (n : ℚ) / 10 ^ d.scale ≤ n := div_le_self (by linarith) (one_le_pow₀ (by norm_num))
      _ ≤ 10 ^ 40 := by linarith

/-- Zero is converted to zero. -/
theorem exists_magnitude64_zero (hzero : d.mantissa = 0) :
    ∃ x, d.magnitude64? = some x ∧ x.isZero := by
  have hofZero : Binary64.ofNat? 0 = some Binary64.zero := rfl
  refine ⟨Binary64.zero, ?_, rfl⟩
  by_cases hplaces : d.scale = 0
  · rw [magnitude64?, if_pos hplaces, hzero]
    rfl
  · obtain ⟨power, hpowerEq, hpower⟩ := exists_ofTenTo hscale
    obtain ⟨z, hz, hzeroZ⟩ := exists_zero_div (show power.absolute ≠ 0 by rw [hpower]; positivity)
    rw [magnitude64?, if_neg hplaces]
    simp [hzero, hofZero, hpowerEq, hz, hzeroZ]

include hmantissa

/-- A whole number with places is converted as its whole part. -/
theorem exists_of_whole (hplaces : d.scale ≠ 0) (hpos : 0 < d.mantissa)
    (hrest : d.mantissa % tenTo d.scale = 0) :
    ∃ x, d.magnitude64? = some x ∧ Nearest (d.mantissa / 10 ^ d.scale) x := by
  obtain ⟨whole, hwhole⟩ := Nat.dvd_of_mod_eq_zero hrest
  have htenTo : 0 < tenTo d.scale := Nat.pow_pos (by decide)
  have hquotient : d.mantissa / tenTo d.scale = whole := by
    rw [hwhole, Nat.mul_div_cancel_left _ htenTo]
  have hwholePos : 0 < whole := Nat.pos_of_mul_pos_left (hwhole ▸ hpos)
  have hwholeShort : whole < 10 ^ 15 :=
    lt_of_le_of_lt (Nat.le_mul_of_pos_left _ htenTo) (hwhole ▸ hmantissa)
  obtain ⟨power, hpowerEq, hpower⟩ := exists_ofTenTo hscale
  obtain ⟨x, hx, hnearest⟩ := exists_nearest_ofShort hwholePos hwholeShort
  have hofZero : Binary64.ofNat? 0 = some Binary64.zero := rfl
  obtain ⟨z, hz, hzero⟩ := exists_zero_div (show power.absolute ≠ 0 by rw [hpower]; positivity)
  refine ⟨x, ?_, ?_⟩
  · rw [magnitude64?, if_neg hplaces]
    simp [hquotient, hrest, hpowerEq, hx, hofZero, hz, hzero]
  · rw [hwhole, tenTo_eq]
    push_cast
    rw [mul_div_cancel_left₀ _ (by positivity)]
    exact hnearest

/-- A number with a part below one is converted by way of its sum, cut to its places. -/
theorem exists_of_rest (hplaces : d.scale ≠ 0) (hpos : 0 < d.mantissa)
    (hrest : 0 < d.mantissa % tenTo d.scale) :
    ∃ x, d.magnitude64? = some x ∧ Nearest (d.mantissa / 10 ^ d.scale) x := by
  have htenTo : (tenTo d.scale : ℚ) = 10 ^ d.scale := by rw [tenTo_eq]; norm_cast
  have hpowerLeast : (1 : ℚ) ≤ 10 ^ d.scale := one_le_pow₀ (by norm_num)
  have hpowerGreatest : (10 : ℚ) ^ d.scale ≤ 10 ^ 22 := pow_le_pow_right₀ (by norm_num) hscale
  obtain ⟨power, hpowerEq, hpower⟩ := exists_ofTenTo hscale
  obtain ⟨whole, hwholeEq, hwhole⟩ := exists_ofShort
    (lt_of_le_of_lt (Nat.div_le_self d.mantissa (tenTo d.scale)) hmantissa)
  have hrestShort := lt_of_le_of_lt (Nat.mod_le d.mantissa (tenTo d.scale)) hmantissa
  obtain ⟨rest, hrestEq, hrestValue⟩ := exists_ofShort hrestShort
  have hrange := inRange_places hscale hrest hrestShort
  rw [← hrestValue, ← hpower] at hrange
  obtain ⟨fraction, hfractionEq, hfraction⟩ := exists_div hrange
  have hvalue : whole.absolute + rest.absolute / power.absolute =
      d.mantissa / power.absolute := by
    rw [hwhole, hrestValue, hpower, ← htenTo, eq_div_iff (by rw [htenTo]; positivity), add_mul,
      div_mul_cancel₀ _ (by rw [htenTo]; positivity)]
    exact_mod_cast Nat.div_add_mod' d.mantissa (tenTo d.scale)
  obtain ⟨sum, product, hsumEq, hproductEq, hnear⟩ := exists_scaledSum hpos hmantissa
    (by rw [hwhole]; positivity) hfraction hvalue (hpower ▸ hpowerLeast)
    (hpower ▸ hpowerGreatest)
  obtain ⟨ten, one, htenEq, honeEq, hfactorEq⟩ := exists_powerBySquaring hscale hpowerEq
  obtain ⟨cut, hcutEq, hcut⟩ := exists_ofShort hmantissa
  have hcutRange := inRange_places hscale hpos hmantissa
  rw [← hcut, ← hpower] at hcutRange ⊢
  obtain ⟨x, hx, hnearest⟩ := exists_div hcutRange
  refine ⟨x, ?_, hnearest⟩
  rw [magnitude64?, if_neg hplaces]
  simp [hwholeEq, hrestEq, hpowerEq, hfractionEq, hfraction.isZero_eq_false, hsumEq, htenEq, honeEq,
    hfactorEq, hproductEq, wholeHalfAway_eq hnear, hcutEq, hx]

/-- A decimal of up to fifteen digits and up to 22 places is converted to the nearest number. -/
theorem exists_magnitude64 (hpos : 0 < d.mantissa) :
    ∃ x, d.magnitude64? = some x ∧ Nearest (d.mantissa / 10 ^ d.scale) x := by
  rcases Nat.eq_zero_or_pos d.scale with hzero | hplaces
  · obtain ⟨x, hx, hnearest⟩ := exists_nearest_ofShort hpos hmantissa
    refine ⟨x, ?_, ?_⟩
    · rw [magnitude64?, if_pos hzero, hx]
    · rw [hzero, pow_zero, div_one]
      exact hnearest
  · rcases Nat.eq_zero_or_pos (d.mantissa % tenTo d.scale) with hwhole | hrest
    · exact exists_of_whole hmantissa hscale (Nat.ne_of_gt hplaces) hpos hwhole
    · exact exists_of_rest hmantissa hscale (Nat.ne_of_gt hplaces) hpos hrest

end

end Reshape.Decimal
