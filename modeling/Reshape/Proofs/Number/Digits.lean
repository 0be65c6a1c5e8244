import Mathlib.Data.List.TakeWhile
import Mathlib.Tactic.Ring
import Reshape.Number.Digits
import Reshape.Number.Shortest

/-!
# Digits

Digits that follow others shift their value, so zeros at the end multiply it. The digits that are
left when these are trimmed are digits of the same number at a higher place (`Digits.Writes`).
-/

namespace Reshape

/-- The value of digits is the number that they write in base ten. -/
theorem digitsValue_eq (cs : List Char) : digitsValue cs = Nat.ofDigitChars 10 cs 0 := by
  simp only [digitsValue, Nat.ofDigitChars_eq_foldl, Nat.mul_comm]
  rfl

/-- Digits that follow move those before them to higher places. -/
theorem digitsValue_append (front back : List Char) :
    digitsValue (front ++ back) = digitsValue front * 10 ^ back.length + digitsValue back := by
  simp only [digitsValue_eq]
  rw [Nat.ofDigitChars_append, Nat.ofDigitChars_eq_ofDigitChars_zero, Nat.mul_comm]

@[simp] theorem digitsValue_zeros (n : Nat) : digitsValue (List.replicate n '0') = 0 := by
  rw [digitsValue_eq, Nat.ofDigitChars_replicate_zero, Nat.mul_zero]

/-- The digits of a number have that number as their value. -/
@[simp] theorem digitsValue_toDigits (n : Nat) : digitsValue (Nat.toDigits 10 n) = n := by
  rw [digitsValue_eq, Nat.ofDigitChars_ten_toDigits]

theorem digitsValue_append_le (front back : List Char) :
    digitsValue front ≤ digitsValue (front ++ back) := by
  rw [digitsValue_append]
  exact Nat.le_add_right_of_le (Nat.le_mul_of_pos_right _ (Nat.pow_pos (by decide)))

/-- A positive number has no digit before those of its order of magnitude. -/
theorem pow_le_of_length {n : Nat} (hn : 0 < n) : 10 ^ ((Nat.toDigits 10 n).length - 1) ≤ n := by
  have hpos : 0 < (Nat.toDigits 10 n).length := Nat.length_toDigits_pos
  rcases Nat.eq_zero_or_pos ((Nat.toDigits 10 n).length - 1) with hone | hmore
  · rw [hone]
    exact hn
  · refine Nat.not_lt.1 fun h => ?_
    have := (Nat.length_toDigits_le_iff (b := 10) (by decide) hmore).2 h
    omega

namespace Binary64

/-- Only zeros are trimmed. -/
theorem trimZeros_append (cs : List Char) :
    ∃ k, cs = trimZeros cs ++ List.replicate k '0' := by
  refine ⟨(cs.reverse.takeWhile (· == '0')).length, ?_⟩
  have hzeros : cs.reverse.takeWhile (· == '0') =
      List.replicate (cs.reverse.takeWhile (· == '0')).length '0' :=
    List.eq_replicate_iff.2 ⟨rfl, fun c hc => by simpa using List.mem_takeWhile_imp hc⟩
  have hsplit := List.takeWhile_append_dropWhile (p := (· == '0')) (l := cs.reverse)
  rw [hzeros] at hsplit
  rw [trimZeros, ← List.reverse_inj, List.reverse_append, List.reverse_replicate,
    List.reverse_reverse]
  exact hsplit.symm

end Binary64

/-- `digits.Writes m least` says that `digits` are digits of `m * 10 ^ least`, none of them below
the last place of `m` and the first of them not zero. -/
structure Digits.Writes (digits : Digits) (m : Nat) (least : Int) : Prop where
  isDigit : ∀ c ∈ digits.digits, c.isDigit
  leading : 10 ^ (digits.digits.length - 1) ≤ digitsValue digits.digits
  value : ∃ k : Nat, digits.point = least + k + digits.digits.length ∧
    digitsValue digits.digits * 10 ^ k = m

/-- The trimmed digits of a number write it. -/
theorem writes_trimZeros {c m k : Nat} {least unit : Int} (hc : 0 < c) (hunit : unit = least + k)
    (hvalue : c * 10 ^ k = m) :
    Digits.Writes ⟨Binary64.trimZeros (Nat.toDigits 10 c), unit + (Nat.toDigits 10 c).length⟩ m
      least := by
  obtain ⟨zeros, hzeros⟩ := Binary64.trimZeros_append (Nat.toDigits 10 c)
  have hlength := congrArg List.length hzeros
  have hleading := pow_le_of_length hc
  have hshifted := digitsValue_toDigits c
  have hdigit : ∀ d ∈ Nat.toDigits 10 c, d.isDigit :=
    fun d hd => Nat.isDigit_of_mem_toDigits (by decide) (by decide) hd
  generalize Binary64.trimZeros (Nat.toDigits 10 c) = trimmed at *
  rw [hzeros, digitsValue_append, digitsValue_zeros, List.length_replicate, Nat.add_zero]
    at hshifted
  rw [List.length_append, List.length_replicate] at hlength
  have hpos : 0 < trimmed.length := by
    refine List.length_pos_iff.2 ?_
    rintro rfl
    rw [← hshifted] at hc
    simp [digitsValue] at hc
  refine ⟨fun d hd => hdigit d ?_, ?_, zeros + k, ?_, ?_⟩
  · rw [hzeros]
    exact List.mem_append_left _ hd
  · rw [hlength, Nat.sub_add_comm hpos, Nat.pow_add, ← hshifted] at hleading
    exact Nat.le_of_mul_le_mul_right hleading (Nat.pow_pos (by decide))
  · dsimp only
    omega
  · rw [← hvalue, ← hshifted, Nat.pow_add, Nat.mul_assoc]

end Reshape
