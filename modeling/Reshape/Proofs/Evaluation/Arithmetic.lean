import Mathlib.Algebra.Group.Int.Defs
import Mathlib.Logic.ExistsUnique
import Reshape.Evaluation.Basic

/-!
# Arithmetic of integers

`Exact` says which number an operator stands for, without saying how it is found: the quotient and
the remainder of a division are those that belong together when the quotient is cut toward zero
(`TruncatedDivision`). `integer_arithmetic_exact` says that integers are calculated exactly: the
result is this number when it fits 64 bits, a division by zero is reported as one, and all else is
an overflow. The remainder of the least integer by `-1` overflows although it fits.

Quotient and remainder add up to the dividend, in an expression as well: no step on the way leaves
64 bits when the quotient does not.
-/

namespace Reshape.Evaluation

/-! ## Numbers that fit -/

/-- `FitsWord n` says that an integer fits 64 signed bits. -/
def FitsWord (n : Int) : Prop := -2 ^ 63 ≤ n ∧ n < 2 ^ 63

theorem fitsWord_toInt (n : Int64) : FitsWord n.toInt := ⟨n.le_toInt, n.toInt_lt⟩

/-- What fits is the value of a word. -/
theorem exists_toInt_eq {n : Int} (h : FitsWord n) : ∃ m : Int64, m.toInt = n :=
  ⟨Int64.ofInt n, Int64.toInt_ofInt_of_le h.1 h.2⟩

/-- A checked result is the word whose value it is. -/
theorem checked?_eq_some {n : Int} {m : Int64} : checked? n = some m ↔ m.toInt = n := by
  have hbounds : (-(twoTo 63 : Int) ≤ n ∧ n < twoTo 63) ↔ FitsWord n := Iff.rfl
  rw [checked?]
  split
  · rename_i h
    have hn : (Int64.ofInt n).toInt = n := Int64.toInt_ofInt_of_le h.1 h.2
    rw [Option.some.injEq, ← Int64.toInt_inj, hn, eq_comm]
  · rename_i h
    refine iff_of_false nofun ?_
    rintro rfl
    exact h (hbounds.2 (fitsWord_toInt m))

/-! ## Exact results -/

/-- `TruncatedDivision a b q r` says that `q` is the quotient of `a` by `b` cut toward zero and `r`
the remainder, which is zero or has the sign of `a`. -/
structure TruncatedDivision (a b q r : Int) : Prop where
  sum : r + b * q = a
  small : r.natAbs < b.natAbs
  nonneg : 0 ≤ a → 0 ≤ r
  nonpos : a ≤ 0 → r ≤ 0

/-- `Exact op a b n` says that `n` is the exact result of an arithmetic operator. -/
def Exact : BinaryOp → Int → Int → Int → Prop
  | .add, a, b, n => n = a + b
  | .subtract, a, b, n => n = a - b
  | .multiply, a, b, n => n = a * b
  | .divide, a, b, n => ∃ r, TruncatedDivision a b n r
  | .modulo, a, b, n => ∃ q, TruncatedDivision a b q n
  | _, _, _, _ => False

section

variable {a b q r : Int}

/-- Quotient and remainder are one pair of numbers. -/
theorem truncatedDivision_iff (hb : b ≠ 0) :
    TruncatedDivision a b q r ↔ a.tdiv b = q ∧ a.tmod b = r := by
  constructor
  · intro h
    have hsmall := h.small
    rcases Int.le_total 0 a with ha | ha
    · have hr := h.nonneg ha
      exact (Int.tdiv_tmod_unique ha hb).2 ⟨h.sum, hr, by omega⟩
    · have hr := h.nonpos ha
      exact (Int.tdiv_tmod_unique' ha hb).2 ⟨h.sum, by omega, hr⟩
  · intro h
    have hsmall : r.natAbs < b.natAbs := by
      rw [← h.2, Int.natAbs_tmod]
      exact Nat.mod_lt _ (Int.natAbs_pos.2 hb)
    have hnonneg : 0 ≤ a → 0 ≤ r := fun ha => ((Int.tdiv_tmod_unique ha hb).1 h).2.1
    have hnonpos : a ≤ 0 → r ≤ 0 := fun ha => ((Int.tdiv_tmod_unique' ha hb).1 h).2.2
    refine ⟨?_, hsmall, hnonneg, hnonpos⟩
    rw [← h.1, ← h.2, Int.add_comm]
    exact Int.mul_tdiv_add_tmod a b

theorem TruncatedDivision.ne_zero (h : TruncatedDivision a b q r) : b ≠ 0 := by
  rintro rfl
  exact absurd h.small (Nat.not_lt_zero _)

/-- The remainder is no larger than the dividend. -/
theorem TruncatedDivision.remainder_le (h : TruncatedDivision a b q r) : r.natAbs ≤ a.natAbs := by
  rw [← ((truncatedDivision_iff h.ne_zero).1 h).2, Int.natAbs_tmod]
  exact Nat.mod_le _ _

/-- What is left of a number that fits fits as well. -/
theorem TruncatedDivision.fits_remainder (h : TruncatedDivision a b q r) (ha : FitsWord a) :
    FitsWord r := by
  have hle := h.remainder_le
  have hnonneg := h.nonneg
  have hnonpos := h.nonpos
  unfold FitsWord at *
  omega

/-- The part of a number that is divided off fits with it. -/
theorem TruncatedDivision.fits_product (h : TruncatedDivision a b q r) (ha : FitsWord a) :
    FitsWord (q * b) := by
  have hsum : q * b = a - r := by
    rw [Int.mul_comm, ← h.sum]
    omega
  have hle := h.remainder_le
  have hnonneg := h.nonneg
  have hnonpos := h.nonpos
  rw [hsum]
  unfold FitsWord at *
  omega

/-- Of numbers that fit, only the least divided by `-1` has a quotient that does not. -/
theorem TruncatedDivision.fits_quotient_iff (h : TruncatedDivision a b q r) (ha : FitsWord a) :
    FitsWord q ↔ ¬ (a = -2 ^ 63 ∧ b = -1) := by
  have hb := h.ne_zero
  have hq := ((truncatedDivision_iff hb).1 h).1
  by_cases hminus : b = -1
  · rw [hminus, Int.tdiv_neg, Int.tdiv_one] at hq
    unfold FitsWord at *
    omega
  · by_cases hone : b = 1
    · rw [hone, Int.tdiv_one] at hq
      unfold FitsWord at *
      omega
    · -- any other divisor at least halves the dividend
      have hhalf : q.natAbs ≤ a.natAbs / 2 := by
        rw [← hq, Int.natAbs_tdiv]
        exact Nat.div_le_div_left (by omega) (by decide)
      unfold FitsWord at *
      omega

end

/-! ## Arithmetic on integers -/

/-- `LeastByMinusOne op a b` says that the remainder of the least integer by `-1` is asked for. -/
def LeastByMinusOne (op : BinaryOp) (a b : Int64) : Prop :=
  op = .modulo ∧ a = Int64.minValue ∧ b = -1

/-- `ExactOrReason op a b` says that `op` gives the exact result on two integers, or tells why it
does not. -/
structure ExactOrReason (op : BinaryOp) (a b : Int64) : Prop where
  /-- There is one exact result, unless a division by zero is asked for. -/
  exact : ¬ (divides op ∧ b = 0) → ∃! n, Exact op a.toInt b.toInt n
  zero : arithmetic op (.integer a) (.integer b) = .error .divisionByZero ↔ divides op ∧ b = 0
  /-- It is given when it fits 64 bits, but for the remainder of the least integer by `-1`. -/
  value : ∀ v, arithmetic op (.integer a) (.integer b) = .ok v ↔
    ¬ (divides op ∧ b = 0) ∧ ¬ LeastByMinusOne op a b ∧
      ∃ n : Int64, v = .integer n ∧ Exact op a.toInt b.toInt n.toInt
  overflow : arithmetic op (.integer a) (.integer b) = .error (.overflow op.symbol) ↔
    ¬ (divides op ∧ b = 0) ∧
      (LeastByMinusOne op a b ∨ ∀ n, Exact op a.toInt b.toInt n → ¬ FitsWord n)

variable {op : BinaryOp} {a b : Int64}

theorem toInt_eq_zero : b.toInt = 0 ↔ b = 0 := by
  rw [← Int64.toInt_inj, Int64.toInt_zero]

/-- An arithmetic operator stands for one number, unless it divides by zero. -/
theorem existsUnique_exact (hop : op.isArithmetic) (hzero : ¬ (divides op ∧ b = 0)) :
    ∃! n, Exact op a.toInt b.toInt n := by
  cases op with
  | add | subtract | multiply => exact ⟨_, rfl, fun _ h => h⟩
  | divide =>
      have hb : b.toInt ≠ 0 := fun hb => hzero ⟨rfl, toInt_eq_zero.1 hb⟩
      simp [Exact, truncatedDivision_iff hb]
  | modulo =>
      have hb : b.toInt ≠ 0 := fun hb => hzero ⟨rfl, toInt_eq_zero.1 hb⟩
      simp [Exact, truncatedDivision_iff hb]
  | _ => cases hop

/-- Only one quotient does not fit: that of the least word by minus one. -/
theorem least_by_minus_one_iff :
    a.toInt = -2 ^ 63 ∧ b.toInt = -1 ↔ a = Int64.minValue ∧ b = -1 := by
  rw [← Int64.toInt_inj, ← Int64.toInt_inj, Int64.toInt_minValue]
  rfl

/-- A remainder is calculated when the quotient fits. -/
theorem modulo_eq_some (hb : b ≠ 0) {n : Int64} :
    ((checked? (a.toInt.tdiv b.toInt)).bind fun _ => checked? (a.toInt.tmod b.toInt)) = some n ↔
      ¬ (a = Int64.minValue ∧ b = -1) ∧ ∃ q, TruncatedDivision a.toInt b.toInt q n.toInt := by
  have hb' : b.toInt ≠ 0 := fun h => hb (toInt_eq_zero.1 h)
  rw [Option.bind_eq_some_iff, ← least_by_minus_one_iff]
  constructor
  · rintro ⟨q, hq, hn⟩
    rw [checked?_eq_some] at hq hn
    have h : TruncatedDivision a.toInt b.toInt q.toInt n.toInt :=
      (truncatedDivision_iff hb').2 ⟨hq.symm, hn.symm⟩
    exact ⟨(h.fits_quotient_iff (fitsWord_toInt a)).1 (fitsWord_toInt q), q.toInt, h⟩
  · rintro ⟨hleast, q, h⟩
    obtain ⟨m, rfl⟩ := exists_toInt_eq ((h.fits_quotient_iff (fitsWord_toInt a)).2 hleast)
    obtain ⟨hq, hn⟩ := (truncatedDivision_iff hb').1 h
    exact ⟨m, checked?_eq_some.2 hq.symm, checked?_eq_some.2 hn.symm⟩

/-- Unless it divides by zero, an operator has the result that is exact and fits, if there is
one. -/
theorem integerResult_eq (hop : op.isArithmetic) (hzero : ¬ (divides op ∧ b = 0)) :
    ∃ result?, integerResult op a b = fitted op result? ∧ ∀ n : Int64, result? = some n ↔
      ¬ LeastByMinusOne op a b ∧ Exact op a.toInt b.toInt n.toInt := by
  cases op with
  | add => exact ⟨_, rfl, fun n => by simp [checked?_eq_some, LeastByMinusOne, Exact]⟩
  | subtract => exact ⟨_, rfl, fun n => by simp [checked?_eq_some, LeastByMinusOne, Exact]⟩
  | multiply => exact ⟨_, rfl, fun n => by simp [checked?_eq_some, LeastByMinusOne, Exact]⟩
  | divide =>
      have hb : b ≠ 0 := fun hb => hzero ⟨rfl, hb⟩
      have hb' : b.toInt ≠ 0 := fun h => hb (toInt_eq_zero.1 h)
      refine ⟨_, by simp [integerResult, divides, hb]; rfl, fun n => ?_⟩
      rw [checked?_eq_some, eq_comm]
      simp [LeastByMinusOne, Exact, truncatedDivision_iff hb']
  | modulo =>
      have hb : b ≠ 0 := fun hb => hzero ⟨rfl, hb⟩
      refine ⟨_, by simp [integerResult, divides, hb]; rfl, fun n => ?_⟩
      rw [modulo_eq_some hb, LeastByMinusOne, Exact]
      simp
  | _ => cases hop

/-- What arithmetic gives on integers: the report of a division by zero, the exact result, or the
report of an overflow. -/
theorem arithmetic_integers (hop : op.isArithmetic) :
    ((divides op ∧ b = 0) ∧
      arithmetic op (.integer a) (.integer b) = .error .divisionByZero) ∨
    ¬ (divides op ∧ b = 0) ∧
      ((∃ n : Int64, arithmetic op (.integer a) (.integer b) = .ok (.integer n) ∧
        ¬ LeastByMinusOne op a b ∧ Exact op a.toInt b.toInt n.toInt) ∨
      arithmetic op (.integer a) (.integer b) = .error (.overflow op.symbol) ∧
        (LeastByMinusOne op a b ∨ ∀ n, Exact op a.toInt b.toInt n → ¬ FitsWord n)) := by
  have harithmetic : arithmetic op (.integer a) (.integer b) =
      (integerResult op a b).map .integer := by cases op <;> rfl
  by_cases hzero : divides op ∧ b = 0
  · have herror : integerResult op a b = .error .divisionByZero := by simp [integerResult, hzero]
    rw [herror] at harithmetic
    exact Or.inl ⟨hzero, harithmetic⟩
  · obtain ⟨result?, hresult, hexact⟩ := integerResult_eq hop hzero
    rw [hresult] at harithmetic
    refine Or.inr ⟨hzero, ?_⟩
    cases result? with
    | some n => exact Or.inl ⟨n, harithmetic, (hexact n).1 rfl⟩
    | none =>
        refine Or.inr ⟨harithmetic, ?_⟩
        by_cases hleast : LeastByMinusOne op a b
        · exact Or.inl hleast
        · refine Or.inr fun n hn hfits => ?_
          obtain ⟨m, rfl⟩ := exists_toInt_eq hfits
          exact nomatch (hexact m).2 ⟨hleast, hn⟩

/-- Every operation on words is exact or says why not. -/
theorem exactOrReason (hop : op.isArithmetic) : ExactOrReason op a b := by
  rcases arithmetic_integers (a := a) (b := b) hop with
    ⟨hzero, h⟩ | ⟨hzero, ⟨n, h, hleast, hn⟩ | ⟨h, hunfit⟩⟩
  · refine ⟨existsUnique_exact hop, iff_of_true h hzero, fun v => ?_, ?_⟩
    · rw [h]
      exact iff_of_false nofun fun hvalue => hvalue.1 hzero
    · rw [h]
      exact iff_of_false nofun fun hoverflow => hoverflow.1 hzero
  · refine ⟨existsUnique_exact hop, ?_, fun v => ?_, ?_⟩
    · rw [h]
      exact iff_of_false nofun hzero
    · rw [h]
      constructor
      · rintro ⟨⟩
        exact ⟨hzero, hleast, n, rfl, hn⟩
      · rintro ⟨_, _, m, rfl, hm⟩
        rw [Int64.toInt_inj.1 ((existsUnique_exact hop hzero).unique hn hm)]
    · rw [h]
      refine iff_of_false nofun ?_
      rintro ⟨_, hleast' | hunfit⟩
      · exact hleast hleast'
      · exact hunfit n.toInt hn (fitsWord_toInt n)
  · refine ⟨existsUnique_exact hop, ?_, fun v => ?_, iff_of_true h ⟨hzero, hunfit⟩⟩
    · rw [h]
      exact iff_of_false nofun hzero
    · rw [h]
      refine iff_of_false nofun ?_
      rintro ⟨_, hleast, n, _, hn⟩
      rcases hunfit with hleast' | hunfit
      · exact hleast hleast'
      · exact hunfit n.toInt hn (fitsWord_toInt n)

/-! ## Quotient and remainder in an expression -/

section

variable {environment : Environment} {x y : Expr} {u v : Value}

/-- An arithmetic operator calculates with the values of its operands. -/
theorem evaluate_arithmetic (hop : op.isArithmetic) (hx : evaluate environment x = .ok u)
    (hy : evaluate environment y = .ok v) :
    evaluate environment (.binary op x y) = arithmetic op u v := by
  cases op with
  | add | subtract | multiply | divide | modulo =>
      simp only [evaluate, hx, hy]
      rfl
  | _ => cases hop

/-- Where a quotient has a value, so have the product with the divisor and the remainder, and they
add up to the dividend. -/
theorem quotient_and_remainder (hx : evaluate environment x = .ok (.integer a))
    (hy : evaluate environment y = .ok (.integer b))
    (hquotient : evaluate environment (.binary .divide x y) = .ok v) :
    ∃ product remainder : Int64,
      evaluate environment (.binary .multiply (.binary .divide x y) y) = .ok (.integer product) ∧
      evaluate environment (.binary .modulo x y) = .ok (.integer remainder) ∧
      evaluate environment
        (.binary .add (.binary .multiply (.binary .divide x y) y) (.binary .modulo x y)) =
          .ok (.integer a) := by
  have hdivided := hquotient
  rw [evaluate_arithmetic rfl hx hy, (exactOrReason rfl).value] at hdivided
  obtain ⟨hzero, _, q, rfl, r, hdivision⟩ := hdivided
  have hleast := (hdivision.fits_quotient_iff (fitsWord_toInt a)).1 (fitsWord_toInt q)
  obtain ⟨remainder, rfl⟩ := exists_toInt_eq (hdivision.fits_remainder (fitsWord_toInt a))
  obtain ⟨product, hproduct⟩ := exists_toInt_eq (hdivision.fits_product (fitsWord_toInt a))
  have hmultiplied : evaluate environment (.binary .multiply (.binary .divide x y) y) =
      .ok (.integer product) := by
    rw [evaluate_arithmetic rfl hquotient hy, (exactOrReason rfl).value]
    exact ⟨by simp [divides], by simp [LeastByMinusOne], product, rfl, hproduct⟩
  have hleft : evaluate environment (.binary .modulo x y) = .ok (.integer remainder) := by
    rw [evaluate_arithmetic rfl hx hy, (exactOrReason rfl).value]
    refine ⟨hzero, fun h => hleast (least_by_minus_one_iff.2 h.2), remainder, rfl, ?_⟩
    exact ⟨q.toInt, hdivision⟩
  refine ⟨product, remainder, hmultiplied, hleft, ?_⟩
  rw [evaluate_arithmetic rfl hmultiplied hleft, (exactOrReason rfl).value]
  refine ⟨by simp [divides], by simp [LeastByMinusOne], a, rfl, ?_⟩
  have hsum := hdivision.sum
  rw [Exact, hproduct, ← hsum, Int.mul_comm, Int.add_comm]

end

/-- Integers are calculated exactly, or the result tells why not. Wherever the quotient of two
integers has a value, quotient times divisor and remainder add up to the dividend. -/
theorem integer_arithmetic_exact :
    (∀ op a b, op.isArithmetic → ExactOrReason op a b) ∧
      ∀ environment x y a b v, evaluate environment x = .ok (.integer a) →
        evaluate environment y = .ok (.integer b) →
        evaluate environment (.binary .divide x y) = .ok v →
        ∃ product remainder : Int64,
          evaluate environment (.binary .multiply (.binary .divide x y) y) =
            .ok (.integer product) ∧
          evaluate environment (.binary .modulo x y) = .ok (.integer remainder) ∧
          evaluate environment
            (.binary .add (.binary .multiply (.binary .divide x y) y) (.binary .modulo x y)) =
              .ok (.integer a) :=
  ⟨fun _ _ _ => exactOrReason, fun _ _ _ _ _ _ => quotient_and_remainder⟩

end Reshape.Evaluation

/-! ## The least integer divided -/

namespace Reshape.Sample

open Evaluation

/-- `balance` is a parameter for the least integer. -/
def balance : Parameter := ⟨0, some "balance", .long⟩

/-- `shares` is a parameter for a divisor. -/
def shares : Parameter := ⟨1, some "shares", .integer⟩

/-- The least integer in shares, the divisor being the innermost parameter. -/
def inShares (divisor : Int64) : Environment :=
  [(shares, .integer divisor), (balance, .integer Int64.minValue)]

/-- Divided by `-3`, the least integer is put together again from quotient and remainder. Its
remainder by `-1` overflows. -/
theorem least_in_shares :
    BinaryOp.modulo.isArithmetic ∧
      evaluate (inShares (-3)) (.parameter balance) = .ok (.integer Int64.minValue) ∧
      evaluate (inShares (-3)) (.parameter shares) = .ok (.integer (-3)) ∧
      evaluate (inShares (-3)) (.binary .divide (.parameter balance) (.parameter shares)) =
        .ok (.integer 3074457345618258602) ∧
      evaluate (inShares (-3))
        (.binary .add
          (.binary .multiply (.binary .divide (.parameter balance) (.parameter shares))
            (.parameter shares))
          (.binary .modulo (.parameter balance) (.parameter shares))) =
        .ok (.integer Int64.minValue) ∧
      arithmetic .modulo (.integer Int64.minValue) (.integer (-1)) = .error (.overflow "%") := by
  obtain ⟨hexact, hparts⟩ := integer_arithmetic_exact
  have hquotient : evaluate (inShares (-3))
      (.binary .divide (.parameter balance) (.parameter shares)) =
        .ok (.integer 3074457345618258602) := rfl
  obtain ⟨_, _, _, _, hsum⟩ :=
    hparts (inShares (-3)) (.parameter balance) (.parameter shares) _ _ _ rfl rfl hquotient
  refine ⟨rfl, rfl, rfl, hquotient, hsum, ?_⟩
  exact (hexact .modulo Int64.minValue (-1) rfl).overflow.2 ⟨by decide, Or.inl ⟨rfl, rfl, rfl⟩⟩

end Reshape.Sample
