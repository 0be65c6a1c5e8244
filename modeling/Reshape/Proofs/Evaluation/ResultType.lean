import Reshape.Evaluation.Arithmetic
import Reshape.Proofs.Shape.Conformance

/-!
# Types of arithmetic results

The static type of a sum, product or quotient is found from the types of its operands, the value
from their values. Both let a decimal prevail over an integer, and a sum with a text be a text. They
agree when the types of the operands are not optional. Under an optional type an operand may prevail
in the value and not in the type (`HidesPromotion`): an integer and an optional decimal have the
type of an integer and a decimal as their sum. `result_type_iff` says that the type is right for all
values of the operands exactly when nothing is hidden in this way.
-/

namespace Reshape

namespace FieldType

/-- `type.Calculates` says that `type` is one of integers, decimals or texts, optional or not. -/
def Calculates (type : FieldType) : Prop :=
  type.present ∈ [.integer, .long, .decimal, .string]

instance (type : FieldType) : Decidable type.Calculates := inferInstanceAs (Decidable (_ ∈ _))

@[simp] theorem present_present (type : FieldType) : type.present.present = type.present := by
  induction type with
  | optional inner ih => exact ih
  | _ => rfl

end FieldType

open FieldType Evaluation

/-! ## Values of optional types -/

namespace Registry

variable {registry : Registry} {type : FieldType} {value : Value}

/-- What is not null has the type without question marks. -/
theorem Conforms.present (h : registry.Conforms type value) (hvalue : value.isNull = false) :
    registry.Conforms type.present value := by
  induction h with
  | null => cases hvalue
  | optional _ ih => exact ih hvalue
  | any value => exact .any value
  | boolean b => exact .boolean b
  | integer n => exact .integer n
  | long n => exact .long n
  | decimal d => exact .decimal d
  | string text => exact .string text
  | dateTime instant => exact .dateTime instant
  | list hitems => exact .list hitems
  | record hshape hnames hfields => exact .record hshape hnames hfields

/-- What an integer is a value of, among the types that one calculates with. -/
theorem Conforms.of_integer {n : Int64} (h : registry.Conforms type (.integer n))
    (htype : type.Calculates) : type.present = .integer ∨ type.present = .long := by
  have hpresent := h.present rfl
  rw [Calculates] at htype
  generalize type.present = present at hpresent htype ⊢
  cases hpresent with
  | integer => exact Or.inl rfl
  | long => exact Or.inr rfl
  | any | optional => simp at htype

/-- What a decimal is a value of, among the types that one calculates with. -/
theorem Conforms.of_decimal {d : Decimal} (h : registry.Conforms type (.decimal d))
    (htype : type.Calculates) : type.present = .decimal := by
  have hpresent := h.present rfl
  rw [Calculates] at htype
  generalize type.present = present at hpresent htype ⊢
  cases hpresent with
  | decimal => rfl
  | any | optional => simp at htype

/-- What a text is a value of, among the types that one calculates with. -/
theorem Conforms.of_text (h : registry.Conforms type value) (hvalue : isText value)
    (htype : type.Calculates) : type.present = .string := by
  cases value with
  | string text =>
      have hpresent := h.present rfl
      rw [Calculates] at htype
      generalize type.present = present at hpresent htype ⊢
      cases hpresent with
      | string => rfl
      | any | optional => simp at htype
  | _ => cases hvalue

end Registry

/-! ## Kinds of calculations -/

namespace Evaluation

/-- `Calculation op a b v` says which kind of operands give which kind of result. -/
inductive Calculation : BinaryOp → Value → Value → Value → Prop where
  | text {a b} (text) : isText a ∨ isText b → Calculation .add a b (.string text)
  | integers {op} (m n r) : Calculation op (.integer m) (.integer n) (.integer r)
  | integerDecimal {op} (n d r) : Calculation op (.integer n) (.decimal d) (.decimal r)
  | decimalInteger {op} (d n r) : Calculation op (.decimal d) (.integer n) (.decimal r)
  | decimals {op} (d d' r) : Calculation op (.decimal d) (.decimal d') (.decimal r)

variable {op : BinaryOp} {a b v : Value}

/-- A sum with a text is a text. -/
theorem arithmetic_text (h : isText a ∨ isText b) :
    arithmetic .add a b = .ok (.string (concatenated a ++ concatenated b)) := by
  rw [arithmetic.eq_def, if_pos (by simpa using h)]

/-- Results other than null come of one of these calculations. -/
theorem calculation_of_arithmetic (h : arithmetic op a b = .ok v) (hv : v.isNull = false) :
    Calculation op a b v := by
  unfold arithmetic at h
  split at h
  · rename_i htext
    cases h
    obtain ⟨hop, htext⟩ : op = .add ∧ (isText a ∨ isText b) := by simpa using htext
    rw [hop]
    exact .text _ htext
  · split at h
    · cases h
      cases hv
    · split at h
      · obtain ⟨r, _, rfl⟩ := except_map_eq_ok.1 h
        exact .integers _ _ r
      · obtain ⟨r, _, rfl⟩ := except_map_eq_ok.1 h
        exact .integerDecimal _ _ r
      · obtain ⟨r, _, rfl⟩ := except_map_eq_ok.1 h
        exact .decimalInteger _ _ r
      · obtain ⟨r, _, rfl⟩ := except_map_eq_ok.1 h
        exact .decimals _ _ r
      · cases h

end Evaluation

/-! ## Static types -/

namespace FieldType

/-- `HidesPromotion op left right` says that an operand of these types may prevail in the value of
`op` although its type does not: a decimal or a text whose optional type stands on the right, or a
text whose optional type stands before a decimal. -/
inductive HidesPromotion : BinaryOp → FieldType → FieldType → Prop where
  | decimal {op left right} : left.present = .integer ∨ left.present = .long →
      right.present = .decimal → right ≠ .decimal → HidesPromotion op left right
  | text {left right} : left.present ≠ .string → right.present = .string → right ≠ .string →
      HidesPromotion .add left right
  | textBeforeDecimal {left} : left.present = .string → left ≠ .string →
      HidesPromotion .add left .decimal

variable {op : BinaryOp} {left right : FieldType}

theorem arithmeticType_eq (hop : op.isArithmetic) :
    Expr.arithmeticType op left right =
      if op = .add ∧ (left = .string ∨ right = .string) then .string
      else if left = .decimal ∨ right = .decimal then .decimal
      else left := by
  cases op with
  | add | subtract | multiply | divide | modulo => rfl
  | _ => cases hop

/-- An integer on the left gives its type, unless a text or a decimal stands on the right. -/
theorem arithmeticType_of_integer (hop : op.isArithmetic)
    (hleft : left.present = .integer ∨ left.present = .long) (htext : right ≠ .string)
    (hdecimal : right ≠ .decimal) : Expr.arithmeticType op left right = left := by
  rw [arithmeticType_eq hop, if_neg, if_neg]
  · rintro (rfl | h)
    · simp [FieldType.present] at hleft
    · exact hdecimal h
  · rintro ⟨_, rfl | h⟩
    · simp [FieldType.present] at hleft
    · exact htext h

/-- Types that are not optional hide nothing. -/
theorem not_hidesPromotion_present : ¬ HidesPromotion op left.present right.present := by
  intro h
  generalize hleft : left.present = l at h
  generalize hright : right.present = r at h
  cases h with
  | decimal _ hpresent hne =>
      rw [← hright, present_present] at hpresent
      exact hne (hright.symm.trans hpresent)
  | text _ hpresent hne =>
      rw [← hright, present_present] at hpresent
      exact hne (hright.symm.trans hpresent)
  | textBeforeDecimal hpresent hne =>
      rw [← hleft, present_present] at hpresent
      exact hne (hleft.symm.trans hpresent)

section

variable (hhidden : ¬ HidesPromotion op left right)
include hhidden

/-- A sum with a text has the type of texts. -/
theorem present_arithmeticType_text (hop : op = .add)
    (htext : left.present = .string ∨ right.present = .string) :
    (Expr.arithmeticType op left right).present = .string := by
  obtain rfl := hop
  rw [arithmeticType_eq rfl]
  split
  · rfl
  · rename_i hbare
    obtain ⟨hleft, hright⟩ : left ≠ .string ∧ right ≠ .string := by simpa using hbare
    have htextLeft : left.present = .string := by
      rcases htext with h | h
      · exact h
      · by_contra hleft'
        exact hhidden (.text hleft' h hright)
    split
    · rename_i hdecimal
      rcases hdecimal with rfl | rfl
      · exact htextLeft
      · exact absurd (.textBeforeDecimal htextLeft hleft) hhidden
    · exact htextLeft

/-- An operation on a decimal and no text has the type of decimals. -/
theorem present_arithmeticType_decimal (hop : op.isArithmetic)
    (hleft : left.present ≠ .string) (hright : right.present ≠ .string)
    (hdecimal : left.present = .decimal ∨
      (left.present = .integer ∨ left.present = .long) ∧ right.present = .decimal) :
    (Expr.arithmeticType op left right).present = .decimal := by
  have hbare : ¬ (op = .add ∧ (left = .string ∨ right = .string)) := by
    rintro ⟨_, rfl | rfl⟩
    · exact hleft rfl
    · exact hright rfl
  rw [arithmeticType_eq hop, if_neg hbare]
  split
  · rfl
  · rename_i hnone
    rcases hdecimal with h | ⟨hinteger, h⟩
    · exact h
    · exact absurd (.decimal hinteger h fun heq => hnone (Or.inr heq)) hhidden

end

end FieldType

/-! ## Values and types of results -/

section

variable {registry : Registry} {op : BinaryOp} {left right : FieldType} {a b v : Value}

/-- What is calculated is a value of the type that is found from types of the operands, question
marks apart, where these hide nothing. -/
theorem Registry.Conforms.arithmetic {left' right' : FieldType} (ha : registry.Conforms left' a)
    (hleft : left'.Calculates) (hpresentLeft : left'.present = left.present)
    (hb : registry.Conforms right' b) (hright : right'.Calculates)
    (hpresentRight : right'.present = right.present) (hop : op.isArithmetic)
    (hhidden : ¬ HidesPromotion op left right) (h : Evaluation.arithmetic op a b = .ok v)
    (hv : v.isNull = false) : registry.Conforms (Expr.arithmeticType op left right) v := by
  refine conforms_of_present ?_
  cases calculation_of_arithmetic h hv with
  | text text htext =>
      have hpresent : left.present = .string ∨ right.present = .string := by
        rw [← hpresentLeft, ← hpresentRight]
        exact htext.imp (fun h => ha.of_text h hleft) fun h => hb.of_text h hright
      rw [present_arithmeticType_text hhidden rfl hpresent]
      exact .string text
  | integers m n r =>
      have hl := hpresentLeft ▸ ha.of_integer hleft
      have hr := hpresentRight ▸ hb.of_integer hright
      have htype : Expr.arithmeticType op left right = left := by
        refine arithmeticType_of_integer hop hl ?_ ?_
        · rintro rfl
          simp [FieldType.present] at hr
        · rintro rfl
          simp [FieldType.present] at hr
      rw [htype]
      rcases hl with hl | hl
      · rw [hl]
        exact .integer r
      · rw [hl]
        exact .long r
  | integerDecimal n d r =>
      have hl := hpresentLeft ▸ ha.of_integer hleft
      have hr := hpresentRight ▸ hb.of_decimal hright
      rw [present_arithmeticType_decimal hhidden hop (by rcases hl with hl | hl <;> simp [hl])
        (by simp [hr]) (Or.inr ⟨hl, hr⟩)]
      exact .decimal r
  | decimalInteger d n r =>
      have hl := hpresentLeft ▸ ha.of_decimal hleft
      have hr := hpresentRight ▸ hb.of_integer hright
      rw [present_arithmeticType_decimal hhidden hop (by simp [hl])
        (by rcases hr with hr | hr <;> simp [hr]) (Or.inl hl)]
      exact .decimal r
  | decimals d d' r =>
      have hl := hpresentLeft ▸ ha.of_decimal hleft
      have hr := hpresentRight ▸ hb.of_decimal hright
      rw [present_arithmeticType_decimal hhidden hop (by simp [hl]) (by simp [hr]) (Or.inl hl)]
      exact .decimal r

/-- Zero and one have a decimal as their result when one is a decimal. -/
theorem exists_arithmetic_decimal (hop : op.isArithmetic) : ∃ d, Evaluation.arithmetic op
    (.integer 0) (.decimal (Decimal.ofInt64 1)) = .ok (.decimal d) := by
  cases op with
  | add | subtract | multiply | divide | modulo => exact ⟨_, rfl⟩
  | _ => cases hop

/-- Where the types hide something, operands have a result that is no value of the static type. -/
theorem FieldType.HidesPromotion.exists_mistyped (registry : Registry)
    (hhidden : HidesPromotion op left right) (hleft : left.Calculates) (hop : op.isArithmetic) :
    ∃ a b v, registry.Conforms left a ∧ registry.Conforms right b ∧
      Evaluation.arithmetic op a b = .ok v ∧ v.isNull = false ∧
        ¬ registry.Conforms (Expr.arithmeticType op left right) v := by
  cases hhidden with
  | decimal hl hr hbare =>
      obtain ⟨d, hd⟩ := exists_arithmetic_decimal hop
      have hinteger : registry.Conforms left.present (.integer 0) := by
        rcases hl with hl | hl
        · rw [hl]
          exact .integer 0
        · rw [hl]
          exact .long 0
      have hdecimal : registry.Conforms right.present (.decimal (Decimal.ofInt64 1)) := by
        rw [hr]
        exact .decimal _
      refine ⟨_, _, _, Registry.conforms_of_present hinteger,
        Registry.conforms_of_present hdecimal, hd, rfl, ?_⟩
      rw [arithmeticType_of_integer hop hl (by rintro rfl; cases hr) hbare]
      intro hmistyped
      rw [hmistyped.of_decimal hleft] at hl
      simp at hl
  | text hl hr hbare =>
      have htext : registry.Conforms right.present (.string "") := by
        rw [hr]
        exact .string ""
      refine ⟨Value.ofType left, .string "", _, Registry.ofType_conforms left,
        Registry.conforms_of_present htext, arithmetic_text (Or.inr rfl), rfl, ?_⟩
      rw [arithmeticType_eq rfl, if_neg]
      · split
        · nofun
        · exact fun hmistyped => hl (hmistyped.of_text rfl hleft)
      · rintro ⟨_, rfl | rfl⟩
        · exact hl rfl
        · exact hbare rfl
  | textBeforeDecimal hl hbare =>
      have htext : registry.Conforms left.present (.string "") := by
        rw [hl]
        exact .string ""
      refine ⟨.string "", .decimal Decimal.zero, _, Registry.conforms_of_present htext, .decimal _,
        arithmetic_text (Or.inl rfl), rfl, ?_⟩
      rw [arithmeticType_eq rfl, if_neg, if_pos (Or.inr rfl)]
      · nofun
      · rintro ⟨_, rfl | h⟩
        · exact hbare rfl
        · cases h

/-- The static type of an arithmetic expression is that of all its values but null exactly when the
types of its operands hide nothing. The type that it has on operands without question marks is that
of its values in every case. -/
theorem result_type_iff (registry : Registry) (hop : op.isArithmetic) {left right : Expr}
    (hleft : left.resultType.Calculates) (hright : right.resultType.Calculates) :
    ((∀ a b v, registry.Conforms left.resultType a → registry.Conforms right.resultType b →
        Evaluation.arithmetic op a b = .ok v → v.isNull = false →
        registry.Conforms (Expr.binary op left right).resultType v) ↔
      ¬ HidesPromotion op left.resultType right.resultType) ∧
    ∀ a b v, registry.Conforms left.resultType a → registry.Conforms right.resultType b →
      Evaluation.arithmetic op a b = .ok v → v.isNull = false →
      registry.Conforms
        (Expr.arithmeticType op left.resultType.present right.resultType.present) v := by
  have htype : (Expr.binary op left right).resultType =
      Expr.arithmeticType op left.resultType right.resultType := by
    cases op with
    | add | subtract | multiply | divide | modulo => rfl
    | _ => cases hop
  rw [htype]
  refine ⟨⟨fun h hhidden => ?_, fun hhidden a b v ha hb => ?_⟩, fun a b v ha hb h hv => ?_⟩
  · obtain ⟨a, b, v, ha, hb, hresult, hv, hmistyped⟩ := hhidden.exists_mistyped registry hleft hop
    exact hmistyped (h a b v ha hb hresult hv)
  · exact ha.arithmetic hleft rfl hb hright rfl hop hhidden
  · exact ha.arithmetic hleft (present_present _).symm hb hright (present_present _).symm hop
      not_hidesPromotion_present h hv

end

/-! ## A count and a weight -/

namespace Sample

/-- `count` is a reference to an integer. -/
def count : Expr := .parameter ⟨0, some "count", .integer⟩

/-- `weight` is a reference to a decimal that may be missing. -/
def weight : Expr := .parameter ⟨1, some "weight", .optional .decimal⟩

/-- A weight of one and a half, to three places. -/
def weighed : Value := .decimal ⟨false, 1500, 3, by decide, by decide⟩

/-- The weight and two. -/
def weighedAndTwo : Value := .decimal ⟨false, 3500, 3, by decide, by decide⟩

theorem weighed_conforms : registry.Conforms weight.resultType weighed := .optional (.decimal _)

/-- With the weight on the left the sum has the type of the weight, and its values too. -/
theorem weight_and_count :
    BinaryOp.add.isArithmetic ∧ weight.resultType.Calculates ∧ count.resultType.Calculates ∧
      ¬ HidesPromotion .add weight.resultType count.resultType ∧
      registry.Conforms weight.resultType weighed ∧
      registry.Conforms count.resultType (.integer 2) ∧
      Evaluation.arithmetic .add weighed (.integer 2) = .ok weighedAndTwo ∧
      registry.Conforms (Expr.binary .add weight count).resultType weighedAndTwo := by
  have hweight : weight.resultType.Calculates := by decide
  have hcount : count.resultType.Calculates := by decide
  have hhidden : ¬ HidesPromotion .add weight.resultType count.resultType := by
    intro h
    cases h with
    | decimal _ hdecimal => cases hdecimal
    | text _ htext => cases htext
  have hsum : Evaluation.arithmetic .add weighed (.integer 2) = .ok weighedAndTwo := rfl
  refine ⟨rfl, hweight, hcount, hhidden, weighed_conforms, .integer 2, hsum, ?_⟩
  exact (result_type_iff registry rfl hweight hcount).1.2 hhidden _ _ _ weighed_conforms
    (.integer 2) hsum rfl

/-- With the weight on the right the sum has the type of integers, and is a decimal. -/
theorem count_and_weight_mistyped :
    BinaryOp.add.isArithmetic ∧ count.resultType.Calculates ∧ weight.resultType.Calculates ∧
      registry.Conforms count.resultType (.integer 2) ∧
      registry.Conforms weight.resultType weighed ∧
      Evaluation.arithmetic .add (.integer 2) weighed = .ok weighedAndTwo ∧
      (Expr.binary .add count weight).resultType = .integer ∧
      ¬ registry.Conforms .integer weighedAndTwo := by
  refine ⟨rfl, by decide, by decide, .integer 2, weighed_conforms, rfl, rfl, ?_⟩
  rintro ⟨⟩

end Sample

end Reshape
