import Reshape.Number.Rounding

/-!
# Rounded quotients

A quotient that is rounded is off by at most half. From the middle, `roundHalfEven` goes to the even
neighbour. What lies less than half from an integer is rounded to it.
-/

namespace Reshape

variable {n d k : Nat}

theorem roundHalfEven_eq_or (n d : Nat) :
    roundHalfEven n d = n / d ∨ roundHalfEven n d = n / d + 1 := by
  rw [roundHalfEven]
  split
  · exact Or.inr rfl
  · exact Or.inl rfl

/-- A rounded quotient is off by at most half. -/
theorem roundHalfEven_near (hd : 0 < d) :
    2 * (roundHalfEven n d * d) ≤ 2 * n + d ∧ 2 * n ≤ 2 * (roundHalfEven n d * d) + d := by
  have hquotient := Nat.div_add_mod' n d
  have hrest := Nat.mod_lt n hd
  rw [roundHalfEven]
  split
  · rename_i hup
    simp only [Bool.or_eq_true, decide_eq_true_eq, Bool.and_eq_true, beq_iff_eq] at hup
    rw [Nat.add_mul]
    omega
  · rename_i hdown
    simp only [Bool.or_eq_true, decide_eq_true_eq, not_or, Nat.not_lt] at hdown
    omega

/-- From the middle a quotient is rounded to an even integer. -/
theorem roundHalfEven_even (hd : 0 < d)
    (h : 2 * (roundHalfEven n d * d) = 2 * n + d ∨ 2 * n = 2 * (roundHalfEven n d * d) + d) :
    roundHalfEven n d % 2 = 0 := by
  have hquotient := Nat.div_add_mod' n d
  have hrest := Nat.mod_lt n hd
  rw [roundHalfEven] at h ⊢
  split at h
  · rename_i hup
    simp only [Bool.or_eq_true, decide_eq_true_eq, Bool.and_eq_true, beq_iff_eq] at hup
    rw [if_pos (by simpa using hup)]
    rw [Nat.add_mul] at h
    omega
  · rename_i hdown
    rw [if_neg hdown]
    simp only [Bool.or_eq_true, decide_eq_true_eq, Bool.and_eq_true, beq_iff_eq] at hdown
    omega

/-- A quotient that is an integer is rounded to itself. -/
theorem roundHalfEven_mul (n : Nat) (hd : 0 < d) : roundHalfEven (n * d) d = n := by
  simp [roundHalfEven, Nat.mul_div_cancel n hd, Nat.ne_of_lt hd]

/-- What lies less than half from an integer is rounded to it. -/
theorem roundHalfUp_eq (hlow : 2 * (k * d) < 2 * n + d) (hhigh : 2 * n < 2 * (k * d) + d) :
    roundHalfUp n d = k := by
  have hd : 0 < d := by omega
  have hquotient := Nat.div_add_mod' n d
  have hrest := Nat.mod_lt n hd
  rw [roundHalfUp]
  split
  · have hlower : k * d < (n / d + 2) * d := by rw [Nat.add_mul]; omega
    have hupper : (n / d) * d < k * d := by omega
    have := Nat.lt_of_mul_lt_mul_right hlower
    have := Nat.lt_of_mul_lt_mul_right hupper
    omega
  · have hlower : k * d < (n / d + 1) * d := by rw [Nat.add_mul]; omega
    have hupper : (n / d) * d < (k + 1) * d := by rw [Nat.add_mul]; omega
    have := Nat.lt_of_mul_lt_mul_right hlower
    have := Nat.lt_of_mul_lt_mul_right hupper
    omega

end Reshape
