import Mathlib.Data.Prod.Lex
import Reshape.Proofs.Evaluation.Equality

/-!
# Comparisons agree on one order

Equality and the comparisons of order are decided apart. On numbers, integers and decimals mixed,
and on instants they agree all the same: all six comparisons are those of one linear order
(`Compares`), that of the rational numbers for numbers. `comparison_agrees` says what follows for
the operators alone: of less, equal and greater exactly one holds, and the other operators, the
order of the operands and a third operand go with it.
-/

namespace Reshape

/-- `t.place` is the place of an instant in time: its second, then its nanoseconds. -/
def Instant.place (t : Instant) : ℤ ×ₗ ℕ := toLex (t.seconds, t.nanoseconds)

/-- Instants are compared by their places on one line. -/
theorem Instant.compare_eq (s t : Instant) : s.compare t = compare s.place t.place := by
  rw [Prod.Lex.compare_def]
  rfl

/-- Instants at one place are the same. -/
theorem Instant.place_inj {s t : Instant} : s.place = t.place ↔ s = t := by
  obtain ⟨seconds, nanoseconds⟩ := s
  obtain ⟨seconds', nanoseconds'⟩ := t
  simp [Instant.place]

/-- `value.place?` is the place of an instant. -/
def Value.place? : Value → Option (ℤ ×ₗ ℕ)
  | .dateTime t => some t.place
  | _ => none

namespace Evaluation

variable {α : Type} [LinearOrder α] {a b c : Value} {x y z : α}

/-- `Compares a b x y` says that the six comparisons of `a` and `b` are those of `x` and `y`. -/
structure Compares (a b : Value) (x y : α) : Prop where
  equal : comparison .equal a b = .ok (decide (x = y))
  notEqual : comparison .notEqual a b = .ok (decide (x ≠ y))
  less : comparison .less a b = .ok (decide (x < y))
  lessOrEqual : comparison .lessOrEqual a b = .ok (decide (x ≤ y))
  greater : comparison .greater a b = .ok (decide (y < x))
  greaterOrEqual : comparison .greaterOrEqual a b = .ok (decide (y ≤ x))

/-- An operator that asks for an order compares two operands in that order. -/
theorem comparison_eq_ordered {op : BinaryOp} {holds : Ordering → Bool}
    (hop : holds? op = some holds) : comparison op a b = ordered op holds a b := by
  cases op with
  | less | lessOrEqual | greater | greaterOrEqual =>
      cases hop
      rfl
  | _ => cases hop

/-- Unless an operand is null, operators of order go by it. -/
theorem comparison_of_order {op : BinaryOp} {holds : Ordering → Bool} {order : Ordering}
    (hop : holds? op = some holds) (hnull : (a.isNull || b.isNull) = false)
    (horder : order? a b = some order) : comparison op a b = .ok (holds order) := by
  rw [comparison_eq_ordered hop, ordered, hnull, if_neg Bool.false_ne_true, horder]

/-- With null no order holds. -/
theorem comparison_of_null {op : BinaryOp} {holds : Ordering → Bool}
    (hop : holds? op = some holds) (hnull : a.isNull ∨ b.isNull) :
    comparison op a b = .ok false := by
  rw [comparison_eq_ordered hop, ordered, if_pos (by simpa using hnull)]

/-- Where equality and order are those of two elements, so are all comparisons. -/
theorem compares_of_order (hnull : (a.isNull || b.isNull) = false)
    (hequal : equal a b = .ok (decide (x = y))) (horder : order? a b = some (compare x y)) :
    Compares a b x y where
  equal := hequal
  notEqual := by
    rw [comparison, hequal, decide_not]
    rfl
  less := by
    have holds : (compare x y).isLT = decide (x < y) := by
      rw [Bool.eq_iff_iff, decide_eq_true_eq]
      exact Ordering.isLT_iff_eq_lt.trans compare_lt_iff_lt
    rw [comparison_of_order rfl hnull horder, holds]
  lessOrEqual := by
    have holds : (compare x y).isLE = decide (x ≤ y) := by
      rw [Bool.eq_iff_iff, decide_eq_true_eq]
      exact Ordering.isLE_iff_ne_gt.trans compare_le_iff_le
    rw [comparison_of_order rfl hnull horder, holds]
  greater := by
    have holds : (compare x y).isGT = decide (y < x) := by
      rw [Bool.eq_iff_iff, decide_eq_true_eq]
      exact Ordering.isGT_iff_eq_gt.trans compare_gt_iff_gt
    rw [comparison_of_order rfl hnull horder, holds]
  greaterOrEqual := by
    have holds : (compare x y).isGE = decide (y ≤ x) := by
      rw [Bool.eq_iff_iff, decide_eq_true_eq]
      exact Ordering.isGE_iff_ne_lt.trans compare_ge_iff_ge
    rw [comparison_of_order rfl hnull horder, holds]

/-- Numbers are compared as rational numbers. -/
theorem number_compares {p q : ℚ} (ha : a.number? = some p) (hb : b.number? = some q) :
    Compares a b p q := by
  have hequal : equal a b = .ok (decide (p = q)) := equal_numbers ha hb
  cases a with
  | integer m =>
      cases ha
      cases b with
      | integer n =>
          cases hb
          refine compares_of_order rfl hequal ?_
          rw [order?, ← cmp_eq_compare, ← cmp_eq_compare, Int.cast_strictMono.cmp_map_eq]
      | decimal d =>
          cases hb
          refine compares_of_order rfl hequal ?_
          rw [order?, Decimal.compare_eq, Decimal.toRat_ofInt64]
      | _ => cases hb
  | decimal d =>
      cases ha
      cases b with
      | integer n =>
          cases hb
          refine compares_of_order rfl hequal ?_
          rw [order?, Decimal.compare_eq, Decimal.toRat_ofInt64]
      | decimal d' =>
          cases hb
          refine compares_of_order rfl hequal ?_
          rw [order?, Decimal.compare_eq]
      | _ => cases hb
  | _ => cases ha

/-- Instants are compared by their places in time. -/
theorem place_compares {s t : ℤ ×ₗ ℕ} (ha : a.place? = some s) (hb : b.place? = some t) :
    Compares a b s t := by
  cases a with
  | dateTime first =>
      cases b with
      | dateTime second =>
          cases ha
          cases hb
          have hequal : (first == second) = decide (first.place = second.place) := by
            rw [Bool.eq_iff_iff, beq_iff_eq, decide_eq_true_eq, Instant.place_inj]
          refine compares_of_order rfl (congrArg Except.ok hequal) ?_
          rw [order?, Instant.compare_eq]
      | _ => cases hb
  | _ => cases ha

/-! ## One order -/

/-- `TotalOrder a b c` says that the comparisons of three values are those of a linear order, as far
as the operators tell. -/
structure TotalOrder (a b c : Value) : Prop where
  /-- Exactly one of the three operators holds, and the others have an answer. -/
  trichotomy : ∃ op ∈ [BinaryOp.less, .equal, .greater],
    ∀ other ∈ [BinaryOp.less, .equal, .greater],
      comparison other a b = .ok (decide (other = op))
  notEqual : comparison .notEqual a b = (comparison .equal a b).map not
  lessOrEqual : ∀ less equal, comparison .less a b = .ok less → comparison .equal a b = .ok equal →
    comparison .lessOrEqual a b = .ok (less || equal)
  greaterOrEqual : ∀ greater equal, comparison .greater a b = .ok greater →
    comparison .equal a b = .ok equal → comparison .greaterOrEqual a b = .ok (greater || equal)
  converse : comparison .less a b = comparison .greater b a
  trans : comparison .less a b = .ok true → comparison .less b c = .ok true →
    comparison .less a c = .ok true
  congr : comparison .equal a b = .ok true →
    comparison .less a c = comparison .less b c ∧ comparison .less c a = comparison .less c b

/-- Values that are compared as the keys that they have in a linear order are in a total order. -/
theorem totalOrder_of_key {key? : Value → Option α}
    (hkey : ∀ {u v x y}, key? u = some x → key? v = some y → Compares u v x y)
    (ha : key? a = some x) (hb : key? b = some y) (hc : key? c = some z) : TotalOrder a b c where
  trichotomy := by
    have hab := hkey ha hb
    rcases lt_trichotomy x y with h | h | h
    · exact ⟨.less, by simp, by simp [hab.less, hab.equal, hab.greater, h, h.ne, h.not_gt]⟩
    · exact ⟨.equal, by simp, by simp [hab.less, hab.equal, hab.greater, h]⟩
    · exact ⟨.greater, by simp, by simp [hab.less, hab.equal, hab.greater, h, h.ne', h.not_gt]⟩
  notEqual := rfl
  lessOrEqual := by
    intro less equal hless hequal
    rw [(hkey ha hb).less] at hless
    rw [(hkey ha hb).equal] at hequal
    cases hless
    cases hequal
    rw [(hkey ha hb).lessOrEqual, ← Bool.decide_or, decide_eq_decide.2 le_iff_lt_or_eq]
  greaterOrEqual := by
    intro greater equal hgreater hequal
    rw [(hkey ha hb).greater] at hgreater
    rw [(hkey ha hb).equal] at hequal
    cases hgreater
    cases hequal
    rw [(hkey ha hb).greaterOrEqual, ← Bool.decide_or, decide_eq_decide.2 le_iff_lt_or_eq']
  converse := by rw [(hkey ha hb).less, (hkey hb ha).greater]
  trans := by
    rw [(hkey ha hb).less, (hkey hb hc).less, (hkey ha hc).less]
    simpa using lt_trans
  congr := by
    rw [(hkey ha hb).equal, (hkey ha hc).less, (hkey hb hc).less, (hkey hc ha).less,
      (hkey hc hb).less]
    intro h
    obtain rfl : x = y := by simpa using h
    exact ⟨rfl, rfl⟩

/-- `OneKind a b c` says that the values are all numbers, integers and decimals mixed, or all
instants. -/
def OneKind (a b c : Value) : Prop :=
  (∀ v ∈ [a, b, c], v.number?.isSome) ∨ ∀ v ∈ [a, b, c], v.place?.isSome

/-- Numbers are in one total order, and so are instants. -/
theorem OneKind.totalOrder (h : OneKind a b c) : TotalOrder a b c := by
  rcases h with h | h
  · simp only [List.forall_mem_cons, Option.isSome_iff_exists] at h
    obtain ⟨⟨p, ha⟩, ⟨q, hb⟩, ⟨r, hc⟩, _⟩ := h
    exact totalOrder_of_key number_compares ha hb hc
  · simp only [List.forall_mem_cons, Option.isSome_iff_exists] at h
    obtain ⟨⟨s, ha⟩, ⟨t, hb⟩, ⟨u, hc⟩, _⟩ := h
    exact totalOrder_of_key place_compares ha hb hc

/-- On numbers and on instants the comparisons agree on one total order, on numbers it is that of
the rational numbers, and null is in no order with anything. -/
theorem comparison_agrees (a b c : Value) :
    (OneKind a b c → TotalOrder a b c) ∧
      (∀ p q, a.number? = some p → b.number? = some q → Compares a b p q) ∧
      (a.isNull ∨ b.isNull → ∀ op ∈ [BinaryOp.less, .lessOrEqual, .greater, .greaterOrEqual],
        comparison op a b = .ok false) := by
  refine ⟨OneKind.totalOrder, fun p q => number_compares, fun hnull => ?_⟩
  simp only [List.forall_mem_cons]
  exact ⟨comparison_of_null rfl hnull, comparison_of_null rfl hnull, comparison_of_null rfl hnull,
    comparison_of_null rfl hnull, nofun⟩

end Evaluation

namespace Sample

/-- One and a half. -/
def oneAndHalf : Value := .decimal ⟨false, 150, 2, by decide, by decide⟩

theorem number_oneAndHalf : oneAndHalf.number? = some (3 / 2) := by
  rw [oneAndHalf, Value.number?, Decimal.toRat, Decimal.signed]
  norm_num

open Evaluation in
/-- One and a half lies between the integers one and two. Null lies nowhere. -/
theorem oneAndHalf_between :
    OneKind (.integer 1) oneAndHalf (.integer 2) ∧
      TotalOrder (.integer 1) oneAndHalf (.integer 2) ∧
      Compares (.integer 1) oneAndHalf (1 : ℚ) (3 / 2) ∧
      comparison .less (.integer 1) oneAndHalf = .ok true ∧
      comparison .less oneAndHalf (.integer 2) = .ok true ∧
      comparison .less .null oneAndHalf = .ok false := by
  have hkind : OneKind (.integer 1) oneAndHalf (.integer 2) := Or.inl (by decide)
  have hone : (Value.integer 1).number? = some (1 : ℚ) := rfl
  refine ⟨hkind, (comparison_agrees _ _ _).1 hkind,
    (comparison_agrees _ _ .null).2.1 _ _ hone number_oneAndHalf, rfl, rfl, ?_⟩
  exact (comparison_agrees .null oneAndHalf .null).2.2 (Or.inl rfl) _ (by decide)

end Sample

end Reshape
