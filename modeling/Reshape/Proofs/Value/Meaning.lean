import Reshape.Proofs.Shape.Conformance

/-!
# What JSON means as a value

`Json.Means` says which values JSON means. JSON is read under a type exactly when it means some
value of the type (`exists_ofJson_iff`). An object means no value, and neither does a number that is
no 64-bit integer and no decimal; but where a type leaves open what stands there, both are read as
null. So nulls of JSON are not the only nulls of what is read (`Json.Means.nullsFrom`).
-/

namespace Reshape

/-! ## Places in lists -/

/-- `json.at? path` is what stands at a place in arrays of arrays. -/
def Json.at? : Json → List Nat → Option Json
  | json, [] => some json
  | .array items, place :: path => items[place]?.bind fun item => item.at? path
  | _, _ :: _ => none

/-- `value.at? path` is what stands at a place in lists of lists. -/
def Value.at? : Value → List Nat → Option Value
  | value, [] => some value
  | .list items, place :: path => items[place]?.bind fun item => item.at? path
  | _, _ :: _ => none

/-- `type.leavesOpen depth` says that a type does not say what stands that deep in lists. -/
def FieldType.leavesOpen : FieldType → Nat → Bool
  | .any, _ => true
  | .optional inner, depth => inner.leavesOpen depth
  | .list element, depth + 1 => element.leavesOpen depth
  | _, _ => false

/-- `json.representable` says that JSON means a value, whatever the items of an array mean. -/
def Json.representable : Json → Bool
  | .number n => n.toInt64?.isSome || (Decimal.read? n.render).isSome
  | .object _ => false
  | _ => true

/-- `json.NullsFrom isOpen value` says that `value` is made of JSON with the lists that are there
and with null in two cases: where JSON has it, and where JSON that cannot be represented stands at
an open depth. -/
def Json.NullsFrom (isOpen : Nat → Bool) (json : Json) (value : Value) : Prop :=
  ∀ path, Option.Rel (fun part held =>
    held.isNull = (part.isNull || (!part.representable && isOpen path.length)))
    (json.at? path) (value.at? path)

/-! ## Meaning -/

/-- `json.Means isOpen value` says that JSON means `value`, or that it does apart from JSON that
cannot be represented, which is lost at the depths in lists that `isOpen` names. -/
inductive Json.Means : (Nat → Bool) → Json → Value → Prop where
  | null {isOpen} : Means isOpen .null .null
  | bool {isOpen} (b) : Means isOpen (.bool b) (.boolean b)
  | integer {isOpen number n} :
      number.toInt64? = some n → Means isOpen (.number number) (.integer n)
  | decimal {isOpen number d} :
      Decimal.read? number.render = some d → Means isOpen (.number number) (.decimal d)
  | string {isOpen} (text) : Means isOpen (.string text) (.string text)
  | decimalText {isOpen text d} :
      Decimal.read? text = some d → Means isOpen (.string text) (.decimal d)
  | dateTime {isOpen text instant} :
      Instant.read? text = some instant → Means isOpen (.string text) (.dateTime instant)
  | list {isOpen items values} : items.length = values.length →
      (∀ item value, (item, value) ∈ items.zip values →
        Means (fun depth => isOpen (depth + 1)) item value) →
      Means isOpen (.array items) (.list values)
  | lost {isOpen json} : isOpen 0 → json.representable = false → Means isOpen json .null

namespace Json

variable {isOpen : Nat → Bool} {json : Json} {value : Value}

/-- Where there are no items, only the JSON itself and its value matter. -/
theorem nullsFrom_of_root (hjson : ∀ place path, json.at? (place :: path) = none)
    (hvalue : ∀ place path, value.at? (place :: path) = none)
    (h : value.isNull = (json.isNull || (!json.representable && isOpen 0))) :
    json.NullsFrom isOpen value := by
  rintro (_ | ⟨place, path⟩)
  · exact .some h
  · rw [hjson, hvalue]
    exact .none

/-- What JSON means has its nulls from the nulls of the JSON and from what is lost. -/
theorem Means.nullsFrom (h : json.Means isOpen value) : json.NullsFrom isOpen value := by
  induction h with
  | integer hread =>
      refine nullsFrom_of_root (fun _ _ => rfl) (fun _ _ => rfl) ?_
      simp [Value.isNull, isNull, representable, hread]
  | decimal hread =>
      refine nullsFrom_of_root (fun _ _ => rfl) (fun _ _ => rfl) ?_
      simp [Value.isNull, isNull, representable, hread]
  | @list isOpen items values hlength _ ih =>
      rintro (_ | ⟨place, path⟩)
      · exact .some (by simp [Value.isNull, isNull, representable])
      · have hitems := List.forall₂_iff_zip.2 ⟨hlength, fun hmem => ih _ _ hmem⟩
        have hplace := rel_getElem?_of_forall₂ hitems place
        rw [at?, Value.at?]
        generalize items[place]? = item at hplace ⊢
        generalize values[place]? = held at hplace ⊢
        cases hplace with
        | none => exact .none
        | some hitem => exact hitem path
  | @lost isOpen json hopen hlost =>
      refine nullsFrom_of_root (fun place path => ?_) (fun _ _ => rfl) ?_
      · cases json with
        | array => cases hlost
        | _ => rfl
      · simp [Value.isNull, hlost, hopen]
  | _ =>
      refine nullsFrom_of_root (fun _ _ => rfl) (fun _ _ => rfl) ?_
      simp [Value.isNull, isNull, representable]

end Json

/-! ## Reading -/

/-- Null is a value of a type that says nothing. -/
theorem FieldType.isNullable_of_leavesOpen {type : FieldType} (h : type.leavesOpen 0) :
    type.isNullable := by
  cases type with
  | any => rfl
  | optional inner => rfl
  | _ => cases h

namespace Value

/-- Under a type with a question mark null is read, and what is read without it. -/
theorem exists_ofJson_optional {inner : FieldType} {json : Json}
    (h : json.isNull ∨ ∃ result, ofJson? inner json = .ok result) :
    ∃ result, ofJson? (.optional inner) json = .ok result := by
  cases hnull : json.isNull with
  | true => exact ⟨.null, by rw [ofJson?, if_pos (by simp [hnull, FieldType.isNullable])]⟩
  | false =>
      rw [ofJson_optional hnull]
      simpa [hnull] using h

mutual

/-- JSON means the value that it has of itself when everything is open. -/
theorem means_ofPlainJson (json : Json) : json.Means (fun _ => true) (ofPlainJson json) := by
  cases json with
  | null => exact .null
  | bool b => exact .bool b
  | number number =>
      rw [ofPlainJson]
      cases hinteger : number.toInt64? with
      | some n => exact .integer hinteger
      | none =>
          cases hdecimal : Decimal.read? number.render with
          | some d => exact .decimal hdecimal
          | none => exact .lost rfl (by simp [Json.representable, hinteger, hdecimal])
  | string text => exact .string text
  | array items =>
      rw [ofPlainJson]
      exact .list (by simp [ofPlainItems_eq]) (means_ofPlainItems items)
  | object members => exact .lost rfl rfl

theorem means_ofPlainItems (items : List Json) :
    ∀ item value, (item, value) ∈ items.zip (ofPlainItems items) →
      item.Means (fun _ => true) value := by
  cases items with
  | nil => exact nofun
  | cons item rest =>
      intro other value hmem
      rw [ofPlainItems, List.zip_cons_cons, List.mem_cons] at hmem
      rcases hmem with heq | hmem
      · cases heq
        exact means_ofPlainJson item
      · exact means_ofPlainItems rest other value hmem

end

end Value

namespace Registry

variable {registry : Registry} {type : FieldType} {json : Json} {value : Value}

/-- JSON means what it is read as, apart from what is lost where the type is open. -/
theorem means_of_ofJson (h : Value.ofJson? type json = .ok value) :
    json.Means type.leavesOpen value := by
  induction type generalizing json value with
  | any =>
      rw [Value.ofJson_any] at h
      cases h
      exact Value.means_ofPlainJson json
  | boolean =>
      cases json with
      | bool b =>
          cases h
          exact .bool b
      | _ => cases h
  | integer =>
      cases json with
      | number number =>
          obtain ⟨n, hread, rfl⟩ := Value.orMismatch_map_eq_ok.1 h
          exact .integer hread
      | _ => cases h
  | long =>
      cases json with
      | number number =>
          obtain ⟨n, hread, rfl⟩ := Value.orMismatch_map_eq_ok.1 h
          exact .integer hread
      | _ => cases h
  | decimal =>
      cases json with
      | number number =>
          obtain ⟨d, hread, rfl⟩ := Value.orMismatch_map_eq_ok.1 h
          exact .decimal hread
      | string text =>
          obtain ⟨d, hread, rfl⟩ := Value.orMismatch_map_eq_ok.1 h
          exact .decimalText hread
      | _ => cases h
  | string =>
      cases json with
      | null =>
          cases h
          exact .null
      | string text =>
          cases h
          exact .string text
      | _ => cases h
  | dateTime =>
      cases json with
      | string text =>
          obtain ⟨instant, hread, rfl⟩ := Value.orMismatch_map_eq_ok.1 h
          exact .dateTime hread
      | _ => cases h
  | optional inner ih =>
      cases hnull : json.isNull with
      | true =>
          cases json with
          | null =>
              cases h
              exact .null
          | _ => cases hnull
      | false =>
          rw [Value.ofJson?, if_neg (by simp [hnull])] at h
          exact ih h
  | list element ih =>
      cases json with
      | null =>
          cases h
          exact .null
      | array items =>
          rw [Value.ofJson_array] at h
          obtain ⟨values, hvalues, rfl⟩ := except_map_eq_ok.1 h
          have hitems := mapM_eq_ok.1 hvalues
          exact .list hitems.length_eq fun item value hmem => ih (List.forall₂_zip hitems hmem)
      | _ => cases h
  | shape name =>
      cases json with
      | null =>
          cases h
          exact .null
      | _ => cases h

/-- JSON that means a value of a type is read under it. -/
theorem exists_ofJson (hconforms : registry.Conforms type value)
    (hmeans : json.Means type.leavesOpen value) :
    ∃ result, Value.ofJson? type json = .ok result := by
  induction type generalizing json value with
  | any => exact ⟨_, Value.ofJson_any json⟩
  | boolean =>
      cases hconforms with
      | null hnull => cases hnull
      | boolean b =>
          cases hmeans with
          | bool => exact ⟨_, rfl⟩
  | integer =>
      cases hconforms with
      | null hnull => cases hnull
      | integer n =>
          cases hmeans with
          | integer hread =>
              exact ⟨_, Value.orMismatch_map_eq_ok.2 ⟨n, hread, rfl⟩⟩
  | long =>
      cases hconforms with
      | null hnull => cases hnull
      | long n =>
          cases hmeans with
          | integer hread =>
              exact ⟨_, Value.orMismatch_map_eq_ok.2 ⟨n, hread, rfl⟩⟩
  | decimal =>
      cases hconforms with
      | null hnull => cases hnull
      | decimal d =>
          cases hmeans with
          | decimal hread =>
              exact ⟨_, Value.orMismatch_map_eq_ok.2 ⟨d, hread, rfl⟩⟩
          | decimalText hread =>
              exact ⟨_, Value.orMismatch_map_eq_ok.2 ⟨d, hread, rfl⟩⟩
  | string =>
      cases hconforms with
      | null =>
          cases hmeans with
          | null => exact ⟨_, rfl⟩
          | lost hopen => cases hopen
      | string text =>
          cases hmeans with
          | string => exact ⟨_, rfl⟩
  | dateTime =>
      cases hconforms with
      | null hnull => cases hnull
      | dateTime instant =>
          cases hmeans with
          | dateTime hread =>
              exact ⟨_, Value.orMismatch_map_eq_ok.2 ⟨instant, hread, rfl⟩⟩
  | optional inner ih =>
      refine Value.exists_ofJson_optional ?_
      cases hconforms with
      | null =>
          cases hmeans with
          | null => exact Or.inl rfl
          | lost hopen hlost =>
              -- what is open under the question mark is open without it, so null conforms to that
              have hinner := ih (.null (FieldType.isNullable_of_leavesOpen hopen))
                (.lost hopen hlost)
              exact Or.inr hinner
      | optional hinner => exact Or.inr (ih hinner hmeans)
  | list element ih =>
      cases hconforms with
      | null =>
          cases hmeans with
          | null => exact ⟨_, rfl⟩
          | lost hopen => cases hopen
      | @list _ values hvalues =>
          cases hmeans with
          | @list _ items _ hlength hitems =>
              have hpairs := List.forall₂_iff_zip.2 ⟨hlength, fun hmem => hitems _ _ hmem⟩
              have hread : ∀ item ∈ items, ∃ result, Value.ofJson? element item = .ok result := by
                intro item hitem
                obtain ⟨value, hvalue, hmeans⟩ := exists_right_of_forall₂ hpairs hitem
                exact ih (hvalues value hvalue) hmeans
              obtain ⟨results, hresults⟩ := exists_forall₂_of_mem hread
              exact ⟨_, except_map_eq_ok.2 ⟨results, mapM_eq_ok.2 hresults, rfl⟩⟩
  | shape name =>
      cases hconforms with
      | null =>
          cases hmeans with
          | null => exact ⟨_, rfl⟩
          | lost hopen => cases hopen
      | record => cases hmeans

/-- JSON is read under a type exactly when it means a value of the type. -/
theorem exists_ofJson_iff : (∃ result, Value.ofJson? type json = .ok result) ↔
    ∃ value, registry.Conforms type value ∧ json.Means type.leavesOpen value := by
  constructor
  · rintro ⟨result, hread⟩
    exact ⟨result, ofJson_conforms hread, means_of_ofJson hread⟩
  · rintro ⟨_, hconforms, hmeans⟩
    exact exists_ofJson hconforms hmeans

end Registry

end Reshape
