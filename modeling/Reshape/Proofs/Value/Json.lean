import Reshape.Proofs.Value.Equality
import Reshape.Value.Json

/-!
# Values that are read back

A plain value is made of nulls, booleans, integers, strings and lists of those. What was read as a
plain value of a type is read from the JSON of that value again, under the same type
(`ofJson_toJson`). The default of a type is read again as well, as the same value, unless it is a
point in time (`ofJson_ofType`).
-/

namespace Reshape

/-- A 64-bit integer is read back from its number. -/
theorem Json.toInt64_of_integer (n : Int64) : (Json.Number.integer n.toInt).toInt64? = some n := by
  have hleast := Int64.le_toInt n
  have hgreatest := Int64.toInt_lt n
  have hbounds : -(twoTo 63 : Int) ≤ n.toInt ∧ n.toInt < twoTo 63 := ⟨hleast, hgreatest⟩
  rw [Number.toInt64?, if_pos hbounds, Int64.ofInt_toInt]

/-- A number that is a 64-bit integer is written as that integer. -/
theorem Json.eq_integer_of_toInt64 {number : Json.Number} {n : Int64}
    (h : number.toInt64? = some n) : number = .integer n.toInt := by
  cases number with
  | integer m =>
      rw [Number.toInt64?] at h
      split at h
      · rename_i hbounds
        cases h
        rw [Int64.toInt_ofInt_of_le hbounds.1 hbounds.2]
      · cases h
  | binary => cases h

/-- `zeroTenths` is zero with one decimal place, as JSON writes it. -/
def Decimal.zeroTenths : Decimal := { Decimal.zero with scale := 1, scale_le := by decide }

/-- What is the same as a zero is a zero. -/
theorem Decimal.sameNumber_zero {zero d : Decimal} (hzero : zero.signed = 0) :
    zero.sameNumber d ↔ d.signed = 0 := by
  have hpower : (tenTo zero.scale : Int) ≠ 0 :=
    Int.natCast_ne_zero.2 (Nat.ne_of_gt (Nat.pow_pos (by decide : 0 < 10)))
  rw [sameNumber, beq_iff_eq, hzero, Int.zero_mul, eq_comm, Int.mul_eq_zero, or_iff_left hpower]

namespace Value

/-- `value.Plain` says that a value is made of nulls, booleans, integers, strings and lists. -/
inductive Plain : Value → Prop where
  | null : Plain .null
  | boolean (b) : Plain (.boolean b)
  | integer (n) : Plain (.integer n)
  | string (text) : Plain (.string text)
  | list {items : List Value} : (∀ item ∈ items, Plain item) → Plain (.list items)

variable {value : Value} {items : List Value}

/-- A plain value has no fields, and so no two of one name. -/
theorem Plain.distinctFields (h : value.Plain) : value.DistinctFields := by
  induction h with
  | null => exact .null
  | boolean b => exact .boolean b
  | integer n => exact .integer n
  | string text => exact .string text
  | list _ ih => exact .list ih

/-- A plain value is the same as itself. -/
theorem Plain.same_self (h : value.Plain) : value.same value :=
  h.distinctFields.same_self

/-- Only null is written as null. -/
theorem Plain.eq_null (h : value.Plain) (hnull : value.toJson.isNull) : value = .null := by
  cases h with
  | null => rfl
  | _ => cases hnull

/-- Items are read back from JSON when each of them is. -/
theorem ofPlainItems_toJsonItems (h : ∀ item ∈ items, ofPlainJson item.toJson = item) :
    ofPlainItems (toJsonItems items) = items := by
  induction items with
  | nil => rfl
  | cons item rest ih =>
      rw [toJsonItems, ofPlainItems, h item List.mem_cons_self]
      rw [ih fun other hother => h other (List.mem_cons_of_mem _ hother)]

/-- A plain value is what its JSON is of itself. -/
theorem Plain.ofPlainJson_toJson (h : value.Plain) : ofPlainJson value.toJson = value := by
  induction h with
  | integer n => simp [toJson, Json.integer, ofPlainJson, Json.toInt64_of_integer]
  | list _ ih => rw [toJson, ofPlainJson, ofPlainItems_toJsonItems ih]
  | _ => rfl

/-! ## Reading under a type -/

theorem toJsonItems_eq (items : List Value) : toJsonItems items = items.map toJson := by
  induction items with
  | nil => rfl
  | cons item rest ih => rw [toJsonItems, ih, List.map_cons]

theorem ofPlainItems_eq (items : List Json) : ofPlainItems items = items.map ofPlainJson := by
  induction items with
  | nil => rfl
  | cons item rest ih => rw [ofPlainItems, ih, List.map_cons]

/-- A value is read when there is one, whatever the type. -/
theorem orMismatch_eq_ok {type : FieldType} {json : Json} {result : Option Value} :
    orMismatch type json result = .ok value ↔ result = some value := by
  cases result <;> simp [orMismatch]

/-- What is made of something read is a value when that is read. -/
theorem orMismatch_map_eq_ok {α : Type} {type : FieldType} {json : Json} {read : Option α}
    {make : α → Value} :
    orMismatch type json (read.map make) = .ok value ↔ ∃ a, read = some a ∧ make a = value := by
  rw [orMismatch_eq_ok, Option.map_eq_some_iff]

variable {type : FieldType} {json : Json}

/-- Every JSON is read without a type as the value that it has of itself. -/
theorem ofJson_any (json : Json) : ofJson? .any json = .ok (ofPlainJson json) := by
  cases json <;> rfl

/-- A question mark only makes null a value. -/
theorem ofJson_optional {inner : FieldType} (h : json.isNull = false) :
    ofJson? (.optional inner) json = ofJson? inner json := by
  rw [ofJson?, if_neg (by simp [h])]

/-- Under a type of which null is a value, null is read back. -/
theorem Plain.ofJson_null (h : value.Plain) (hnull : value.toJson.isNull)
    (htype : type.isNullable) : ofJson? type value.toJson = .ok value := by
  obtain rfl := h.eq_null hnull
  rw [ofJson?.eq_def, if_pos (by simpa using ⟨hnull, htype⟩)]

/-- A list is read item by item under the type of its elements. -/
theorem ofJson_array (element : FieldType) (items : List Json) :
    ofJson? (.list element) (.array items) =
      (items.mapM fun item => ofJson? element item).map .list :=
  rfl

/-- A list is read back when what its elements were read as is. -/
theorem ofJson_list {element : FieldType} {items : List Json}
    (h : ofJson? (.list element) (.array items) = .ok value) (hplain : value.Plain)
    (helement : ∀ {item json}, ofJson? element json = .ok item → item.Plain →
      ofJson? element item.toJson = .ok item) :
    ofJson? (.list element) value.toJson = .ok value := by
  rw [ofJson_array] at h
  cases hitems : items.mapM fun item => ofJson? element item with
  | error error => rw [hitems] at h; cases h
  | ok values =>
      rw [hitems] at h
      cases h
      cases hplain with
      | list hvalues =>
          have hback : ∀ v ∈ values, ofJson? element v.toJson = .ok v := by
            intro v hv
            obtain ⟨item, _, hitem⟩ := exists_left_of_forall₂ (mapM_eq_ok.1 hitems) hv
            exact helement hitem (hvalues v hv)
          rw [toJson, toJsonItems_eq, ofJson_array, mapM_map_eq_ok hback]
          rfl

/-- An integer is read back as a value of the types whose numbers are integers. -/
theorem ofJson_integer_toJson (n : Int64) (hread : ∀ number, ofJson? type (.number number) =
      orMismatch type (.number number) (number.toInt64?.map .integer)) :
    ofJson? type (Value.integer n).toJson = .ok (.integer n) := by
  rw [toJson, Json.integer, hread, Json.toInt64_of_integer]
  rfl

/-- A number that is read as an integer is read back. -/
theorem ofJson_integer {number : Json.Number}
    (h : orMismatch type json (number.toInt64?.map .integer) = .ok value)
    (hread : ∀ number, ofJson? type (.number number) =
      orMismatch type (.number number) (number.toInt64?.map .integer)) :
    ofJson? type value.toJson = .ok value := by
  obtain ⟨n, _, rfl⟩ := orMismatch_map_eq_ok.1 h
  exact ofJson_integer_toJson n hread

/-- What was read as a plain value of a type is read from its JSON again. -/
theorem ofJson_toJson (h : ofJson? type json = .ok value) (hplain : value.Plain) :
    ofJson? type value.toJson = .ok value := by
  induction type generalizing json value with
  | any =>
      by_cases hnull : value.toJson.isNull
      · exact hplain.ofJson_null hnull rfl
      · rw [ofJson?, if_neg (by simp [hnull]), hplain.ofPlainJson_toJson]
  | boolean =>
      cases json with
      | bool b => cases h; rfl
      | _ => cases h
  | integer =>
      cases json with
      | number number => exact ofJson_integer h fun _ => rfl
      | _ => cases h
  | long =>
      cases json with
      | number number => exact ofJson_integer h fun _ => rfl
      | _ => cases h
  | decimal =>
      -- a decimal is not plain
      cases json with
      | number number =>
          obtain ⟨_, _, rfl⟩ := orMismatch_map_eq_ok.1 h
          cases hplain
      | string text =>
          obtain ⟨_, _, rfl⟩ := orMismatch_map_eq_ok.1 h
          cases hplain
      | _ => cases h
  | string =>
      cases json with
      | null => cases h; rfl
      | string text => cases h; rfl
      | _ => cases h
  | dateTime =>
      cases json with
      | string text =>
          obtain ⟨_, _, rfl⟩ := orMismatch_map_eq_ok.1 h
          cases hplain
      | _ => cases h
  | optional inner ih =>
      by_cases hnull : value.toJson.isNull
      · exact hplain.ofJson_null hnull rfl
      · rw [ofJson?] at h ⊢
        rw [if_neg (by simp [hnull])]
        split at h
        · cases h
          exact absurd rfl hnull
        · exact ih h hplain
  | list element ih =>
      cases json with
      | null => cases h; rfl
      | array items => exact ofJson_list h hplain ih
      | _ => cases h
  | shape name =>
      cases json with
      | null => cases h; rfl
      | _ => cases h

/-! ## Defaults -/

/-- `value.reread` is what a default is read as from its JSON, where zero has a decimal place. -/
def reread : Value → Value
  | .decimal d => .decimal (if d = Decimal.zero then Decimal.zeroTenths else d)
  | value => value

/-- What is read again is written down alike. -/
theorem toJson_reread (value : Value) : value.reread.toJson = value.toJson := by
  cases value with
  | decimal d =>
      by_cases hzero : d = Decimal.zero
      · rw [reread, if_pos hzero, hzero]
        rfl
      · rw [reread, if_neg hzero]
  | _ => rfl

/-- What is the same as a value that is read again is the same as the value. -/
theorem same_of_reread {value other : Value} (h : value.reread.same other) : value.same other := by
  cases value with
  | decimal d =>
      by_cases hzero : d = Decimal.zero
      · rw [reread, if_pos hzero] at h
        cases other with
        | decimal d' =>
            rw [same, Decimal.sameNumber_zero rfl] at h
            rw [hzero, same, Decimal.sameNumber_zero rfl, h]
        | _ => cases h
      · rwa [reread, if_neg hzero] at h
  | _ => exact h

theorem Plain.reread_eq (h : value.Plain) : value.reread = value := by
  cases h <;> rfl

/-- The default of a type other than `DateTime` is read again. -/
theorem ofJson_ofType (h : type ≠ .dateTime) :
    ofJson? type (ofType type).toJson = .ok (ofType type).reread := by
  cases type with
  | dateTime => exact absurd rfl h
  | _ => rfl

theorem same_reread_ofType (type : FieldType) :
    (ofType type).reread.same (ofType type).reread := by
  cases type <;> rfl

/-- The default of `DateTime` comes before the years that are read. -/
theorem ofJson_earliest :
    ofJson? .dateTime (ofType .dateTime).toJson ≠ .ok value := by
  rw [ofType, toJson, ofJson?, if_neg (by simp [Json.isNull]), Ne, orMismatch_eq_ok]
  have hread : Instant.read? Instant.earliest.render = none := rfl
  rw [hread]
  simp

/-- A plain value is no point in time. -/
theorem Plain.ofJson_dateTime (h : value.Plain) : ofJson? .dateTime json ≠ .ok value := by
  cases json with
  | string text =>
      intro hread
      obtain ⟨_, _, rfl⟩ := orMismatch_map_eq_ok.1 hread
      cases h
  | _ => nofun

end Value

end Reshape
