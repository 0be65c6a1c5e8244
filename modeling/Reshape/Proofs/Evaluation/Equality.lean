import Reshape.Evaluation.Comparison
import Reshape.Proofs.Value.Equality

/-!
# Equality of values is an equivalence

Equality compares numbers as numbers, lists item by item, and all else as a whole. Every value is
equal to itself, the order of two operands does not matter, and values that are equal to a third are
equal (`equal_equivalence`). Operands that cannot be compared fail in both orders.
-/

namespace Reshape

namespace Value

/-- `value.number?` is the number that an integer or a decimal stands for. -/
def number? : Value → Option ℚ
  | .integer n => some n.toInt
  | .decimal d => some d.toRat
  | _ => none

/-- `value.isWhole` says that `value` is compared as a whole, and only with values of its kind. -/
def isWhole : Value → Bool
  | .boolean _ | .string _ | .dateTime _ | .record _ _ => true
  | .null | .integer _ | .decimal _ | .list _ => false

end Value

namespace Evaluation

variable {a b c : Value} {p q : ℚ} {x : Bool}

/-! ## Pairs of operands -/

/-- Null equals null and nothing else. -/
theorem equal_null_left (b : Value) : equal .null b = .ok b.isNull := by
  cases b <;> rfl

/-- Nothing but null equals null. -/
theorem equal_null_right (a : Value) : equal a .null = .ok a.isNull := by
  cases a <;> rfl

/-- Numbers are equal when they are the same rational number. -/
theorem equal_numbers (ha : a.number? = some p) (hb : b.number? = some q) :
    equal a b = .ok (decide (p = q)) := by
  cases a with
  | integer m =>
      cases b with
      | integer n =>
          cases ha
          cases hb
          have hsame : ((m.toInt : ℚ) = n.toInt) ↔ m = n := by
            rw [Int.cast_inj, Int64.toInt_inj]
          show Except.ok (m == n) = _
          rw [decide_eq_decide.2 hsame]
          rfl
      | decimal d =>
          cases ha
          cases hb
          show Except.ok ((Decimal.ofInt64 m).sameNumber d) = _
          rw [Decimal.sameNumber_eq, Decimal.toRat_ofInt64]
      | _ => cases hb
  | decimal d =>
      cases b with
      | integer n =>
          cases ha
          cases hb
          show Except.ok (d.sameNumber (Decimal.ofInt64 n)) = _
          rw [Decimal.sameNumber_eq, Decimal.toRat_ofInt64]
      | decimal d' =>
          cases ha
          cases hb
          show Except.ok (d.sameNumber d') = _
          rw [Decimal.sameNumber_eq]
      | _ => cases hb
  | _ => cases ha

/-- Lists are equal item by item when they are of one length, and else not equal. -/
theorem equal_list (as bs : List Value) : equal (.list as) (.list bs) =
    if as.length = bs.length then equalItems as bs else .ok false :=
  rfl

/-- `mismatch a b` says that `a` and `b` cannot be compared. -/
def mismatch (a b : Value) : EvalError :=
  .invalidOperand "==" ("cannot compare " ++ a.kind ++ " with " ++ b.kind)

/-- What is compared as a whole is the same or not, unless the other is of another kind. -/
theorem equal_whole (h : a.isWhole) : equal a b =
    if b.isNull then .ok false
    else if a.kind = b.kind then .ok (a.same b) else .error (mismatch a b) := by
  cases a with
  | boolean | string | dateTime | record => cases b <;> rfl
  | _ => cases h

/-- A value is compared as a whole with one that is. -/
theorem equal_whole_right (h : b.isWhole) : equal a b =
    if a.isNull then .ok false
    else if a.kind = b.kind then .ok (a.same b) else .error (mismatch a b) := by
  cases b with
  | boolean | string | dateTime | record => cases a <;> rfl
  | _ => cases h

/-! ## Either order -/

/-- Numbers are compared alike in both orders. -/
theorem equal_number_comm (ha : a.number? = some p) :
    equal a b = .ok x ↔ equal b a = .ok x := by
  cases b with
  | integer | decimal =>
      rw [equal_numbers ha rfl, equal_numbers rfl ha, decide_eq_decide.2 eq_comm]
  | null => rw [equal_null_left, equal_null_right]
  | _ =>
      cases a with
      | integer | decimal => exact ⟨nofun, nofun⟩
      | _ => cases ha

/-- What is compared as a whole is compared alike in both orders. -/
theorem equal_whole_comm (hwhole : a.isWhole) (ha : a.DistinctFields) (hb : b.DistinctFields) :
    equal a b = .ok x ↔ equal b a = .ok x := by
  rw [equal_whole hwhole, equal_whole_right hwhole]
  split
  · rfl
  · by_cases hkind : a.kind = b.kind
    · rw [if_pos hkind, if_pos hkind.symm, ha.same_comm hb]
    · rw [if_neg hkind, if_neg (Ne.symm hkind)]
      exact ⟨nofun, nofun⟩

/-- Items are compared one after the other, up to the first pair that is not equal. -/
theorem equalItems_cons {as bs : List Value} : equalItems (a :: as) (b :: bs) = .ok x ↔
    (equal a b = .ok true ∧ equalItems as bs = .ok x) ∨ (equal a b = .ok false ∧ x = false) := by
  rw [equalItems, except_bind_eq_ok]
  constructor
  · rintro ⟨_ | _, hfirst, hrest⟩
    · cases hrest
      exact Or.inr ⟨hfirst, rfl⟩
    · exact Or.inl ⟨hfirst, hrest⟩
  · rintro (⟨hfirst, hrest⟩ | ⟨hfirst, rfl⟩)
    · exact ⟨true, hfirst, hrest⟩
    · exact ⟨false, hfirst, rfl⟩

/-- Items are compared alike in both orders if any two of them are. -/
theorem equalItems_comm {as bs : List Value} (h : ∀ a ∈ as, ∀ b ∈ bs, ∀ x,
      equal a b = .ok x ↔ equal b a = .ok x) :
    equalItems as bs = .ok x ↔ equalItems bs as = .ok x := by
  induction as generalizing bs with
  | nil => cases bs <;> rfl
  | cons a rest ih =>
      cases bs with
      | nil => rfl
      | cons b rest' =>
          -- both orders look at the same pairs and stop, or fail, at the same one
          have hfirst := h a List.mem_cons_self b List.mem_cons_self
          have hrest : equalItems rest rest' = .ok x ↔ equalItems rest' rest = .ok x :=
            ih fun a ha b hb => h a (List.mem_cons_of_mem _ ha) b (List.mem_cons_of_mem _ hb)
          rw [equalItems_cons, equalItems_cons, hfirst true, hfirst false, hrest]

/-- Two values are equal, unequal or without comparison in both orders. -/
theorem equal_comm (ha : a.DistinctFields) (hb : b.DistinctFields) :
    equal a b = .ok x ↔ equal b a = .ok x := by
  induction ha generalizing b x with
  | null => rw [equal_null_left, equal_null_right]
  | integer n => exact equal_number_comm rfl
  | decimal d => exact equal_number_comm rfl
  | boolean v => exact equal_whole_comm rfl (.boolean v) hb
  | string text => exact equal_whole_comm rfl (.string text) hb
  | dateTime instant => exact equal_whole_comm rfl (.dateTime instant) hb
  | record hnodup hfields _ => exact equal_whole_comm rfl (.record hnodup hfields) hb
  | @list as _ ih =>
      cases hb with
      | null => rfl
      | @list bs hitems =>
          rw [equal_list, equal_list]
          -- lists of different lengths are unequal, whatever their items
          by_cases hlength : as.length = bs.length
          · rw [if_pos hlength, if_pos hlength.symm]
            exact equalItems_comm fun a ha b hb x => ih a ha (hitems b hb)
          · rw [if_neg hlength, if_neg (Ne.symm hlength)]
      | _ => exact ⟨nofun, nofun⟩

/-! ## What equals a value -/

/-- Lists of one length are equal when their items are, pair by pair. -/
theorem equalItems_iff {as bs : List Value} (hlength : as.length = bs.length) :
    equalItems as bs = .ok true ↔ List.Forall₂ (fun a b => equal a b = .ok true) as bs := by
  induction as generalizing bs with
  | nil =>
      obtain rfl := List.length_eq_zero_iff.1 hlength.symm
      exact ⟨fun _ => .nil, fun _ => rfl⟩
  | cons a rest ih =>
      cases bs with
      | nil => cases hlength
      | cons b rest' =>
          rw [equalItems_cons, List.forall₂_cons, ih (Nat.succ.inj hlength)]
          simp

/-- A number equals what stands for the same number. -/
theorem equal_number_iff (ha : a.number? = some p) :
    equal a b = .ok true ↔ b.number? = some p := by
  cases hb : b.number? with
  | some q => simp [equal_numbers ha hb, eq_comm]
  | none =>
      refine ⟨fun h => ?_, nofun⟩
      cases b with
      | integer | decimal => cases hb
      | _ =>
        cases a with
        | integer | decimal => cases h
        | _ => cases ha

/-- A list equals a list of equal items. -/
theorem equal_list_iff {as : List Value} : equal (.list as) b = .ok true ↔
    ∃ bs, b = .list bs ∧ List.Forall₂ (fun a b => equal a b = .ok true) as bs := by
  cases b with
  | list bs =>
      rw [equal_list]
      by_cases hlength : as.length = bs.length
      · rw [if_pos hlength, equalItems_iff hlength]
        simp
      · rw [if_neg hlength]
        refine ⟨nofun, ?_⟩
        rintro ⟨_, ⟨⟩, h⟩
        exact absurd h.length_eq hlength
  | _ => exact ⟨nofun, nofun⟩

/-- What is compared as a whole equals what is the same. -/
theorem equal_whole_iff (h : a.isWhole) : equal a b = .ok true ↔ a.same b := by
  cases a with
  | boolean | string | dateTime | record =>
      cases b with
      | boolean | string | dateTime | record =>
          simp [equal_whole h, Value.isNull, Value.kind, Value.same]
      | _ =>
          constructor
          · intro hequal
            cases hequal
          · intro hsame
            cases hsame
  | _ => cases h

/-- What is the same as something that is compared as a whole is compared as a whole, too. -/
theorem isWhole_of_same (h : a.isWhole) (hsame : a.same b) : b.isWhole := by
  cases a with
  | boolean | string | dateTime | record =>
      cases b with
      | boolean | string | dateTime | record => rfl
      | _ => cases hsame
  | _ => cases h

/-- A value is equal to itself. -/
theorem equal_self (h : a.DistinctFields) : equal a a = .ok true := by
  induction h with
  | null => rfl
  | integer n => exact (equal_number_iff rfl).2 rfl
  | decimal d => exact (equal_number_iff rfl).2 rfl
  | boolean v => exact (equal_whole_iff rfl).2 (Value.DistinctFields.boolean v).same_self
  | string text => exact (equal_whole_iff rfl).2 (Value.DistinctFields.string text).same_self
  | dateTime instant =>
      exact (equal_whole_iff rfl).2 (Value.DistinctFields.dateTime instant).same_self
  | record hnodup hfields _ =>
      exact (equal_whole_iff rfl).2 (Value.DistinctFields.record hnodup hfields).same_self
  | list _ ih => exact equal_list_iff.2 ⟨_, rfl, List.forall₂_same.2 ih⟩

/-- Equality is transitive from a number on. -/
theorem equal_number_trans (ha : a.number? = some p) (hab : equal a b = .ok true)
    (hbc : equal b c = .ok true) : equal a c = .ok true := by
  have hb : b.number? = some p := (equal_number_iff ha).1 hab
  have hc : c.number? = some p := (equal_number_iff hb).1 hbc
  exact (equal_number_iff ha).2 hc

/-- Equality is transitive from what is compared as a whole on. -/
theorem equal_whole_trans (hwhole : a.isWhole) (ha : a.DistinctFields)
    (hab : equal a b = .ok true) (hbc : equal b c = .ok true) : equal a c = .ok true := by
  have hfirst : a.same b := (equal_whole_iff hwhole).1 hab
  have hsecond : b.same c := (equal_whole_iff (isWhole_of_same hwhole hfirst)).1 hbc
  exact (equal_whole_iff hwhole).2 (ha.same_trans hfirst hsecond)

/-- Values that are equal to a third are equal. -/
theorem equal_trans (ha : a.DistinctFields) (hab : equal a b = .ok true)
    (hbc : equal b c = .ok true) : equal a c = .ok true := by
  induction ha generalizing b c with
  | null =>
      cases b with
      | null => exact hbc
      | _ => cases hab
  | integer n => exact equal_number_trans rfl hab hbc
  | decimal d => exact equal_number_trans rfl hab hbc
  | boolean v => exact equal_whole_trans rfl (.boolean v) hab hbc
  | string text => exact equal_whole_trans rfl (.string text) hab hbc
  | dateTime instant => exact equal_whole_trans rfl (.dateTime instant) hab hbc
  | record hnodup hfields _ => exact equal_whole_trans rfl (.record hnodup hfields) hab hbc
  | list _ ih =>
      obtain ⟨bs, rfl, hfirst⟩ := equal_list_iff.1 hab
      obtain ⟨cs, rfl, hsecond⟩ := equal_list_iff.1 hbc
      have hpairs := forall₂_compose_of_mem hfirst hsecond fun a ha _ _ hab hbc => ih a ha hab hbc
      exact equal_list_iff.2 ⟨cs, rfl, hpairs⟩

/-- Equality is an equivalence: each value equals itself, the order of the operands counts neither
for the answer nor for whether there is one, and values that equal a third are equal. -/
theorem equal_equivalence (ha : a.DistinctFields) (hb : b.DistinctFields) :
    equal a a = .ok true ∧
      (∀ x, equal a b = .ok x ↔ equal b a = .ok x) ∧
      ((∃ error, equal a b = .error error) ↔ ∃ error, equal b a = .error error) ∧
      (equal a b = .ok true → equal b c = .ok true → equal a c = .ok true) := by
  have hcomm : ∀ x, equal a b = .ok x ↔ equal b a = .ok x := fun x => equal_comm ha hb
  refine ⟨equal_self ha, hcomm, ?_, equal_trans ha⟩
  cases hab : equal a b with
  | ok x => simp [(hcomm x).1 hab]
  | error error =>
      cases hba : equal b a with
      | ok x => rw [(hcomm x).2 hba] at hab; cases hab
      | error error' => exact ⟨fun _ => ⟨error', rfl⟩, fun _ => ⟨error, rfl⟩⟩

end Evaluation

namespace Sample

/-- `itemOf fields` is an item whose fields were set in order. -/
def itemOf (fields : List (String × Value)) : Value :=
  .record "Item" (fields.foldl (fun set field => Entries.put field.1 field.2 set) [])

/-- A box of two. -/
def box : Value := itemOf [("Note", .string "box"), ("Count", .integer 2)]

/-- The same box with its fields set in the other order. -/
def turnedBox : Value := itemOf [("Count", .integer 2), ("Note", .string "box")]

/-- `delivery weight item` lists a weight, an item and null. -/
def delivery (weight item : Value) : Value := .list [weight, item, .null]

/-- `unit scale` is one with some decimal places. -/
def unit (scale : Fin 3) : Value :=
  .decimal ⟨false, 10 ^ scale.val, scale.val, by decide +revert, by omega⟩

theorem delivery_distinct {weight item : Value} (hweight : weight.DistinctFields)
    (hitem : item.DistinctFields) : (delivery weight item).DistinctFields := by
  refine .list ?_
  simp [hweight, hitem, Value.DistinctFields.null]

theorem empty_distinct : (itemOf []).DistinctFields :=
  .record List.nodup_nil nofun

theorem box_distinct : box.DistinctFields :=
  (empty_distinct.put "Note" (.string "box")).put "Count" (.integer 2)

theorem turnedBox_distinct : turnedBox.DistinctFields :=
  (empty_distinct.put "Count" (.integer 2)).put "Note" (.string "box")

open Evaluation in
/-- Three lists are equal whose weights are an integer and decimals of two scales, and whose items
have their fields in different orders. -/
theorem deliveries_equal :
    (delivery (.integer 1) box).DistinctFields ∧ (delivery (unit 1) turnedBox).DistinctFields ∧
      equal (delivery (.integer 1) box) (delivery (unit 1) turnedBox) = .ok true ∧
      equal (delivery (unit 1) turnedBox) (delivery (unit 2) box) = .ok true ∧
      equal (delivery (.integer 1) box) (delivery (unit 2) box) = .ok true := by
  have hfirst := delivery_distinct (.integer 1) box_distinct
  have hsecond := delivery_distinct (.decimal _ : (unit 1).DistinctFields) turnedBox_distinct
  have hlaws := equal_equivalence (c := delivery (unit 2) box) hfirst hsecond
  exact ⟨hfirst, hsecond, rfl, rfl, hlaws.2.2.2 rfl rfl⟩

end Sample

end Reshape
