import Reshape.Proofs.Shape.Levels

/-!
# Reading with and without a registry

JSON is read as a value in two ways: with a registry, which knows the fields of shapes, and without
one, where an object has no value. Both look through question marks and go into lists, each in its
own order, and both refuse the same JSON with the same error as long as no shape takes part
(`readers_agree_iff`). Where a type mentions a shape, at whatever depth, they differ for every
registry: an empty object is either a record of the shape, or the shape is not known.
-/

namespace Reshape

open FieldType

variable {registry : Registry} {type inner element : FieldType} {json : Json}

/-! ## Question marks and lists -/

namespace Registry

/-- A question mark only makes null a value, with a registry as well. -/
theorem valueOfJson_optional_eq (h : json.isNull = false) :
    registry.valueOfJson json (.optional inner) = registry.valueOfJson json inner := by
  cases json with
  | null => cases h
  | bool b => exact Value.ofJson_optional rfl
  | number number => exact Value.ofJson_optional rfl
  | string text => exact Value.ofJson_optional rfl
  | array items =>
      rw [valueOfJson, valueOfJson]
      rfl
  | object members =>
      rw [valueOfJson, valueOfJson]
      rfl

/-- Without shapes a registry does not matter. -/
theorem valueOfJson_eq_ofJson (h : type.mentioned? = none) (json : Json) :
    registry.valueOfJson json type = Value.ofJson? type json := by
  induction type generalizing json with
  | shape name => cases h
  | optional inner ih =>
      cases hnull : json.isNull with
      | false => rw [valueOfJson_optional_eq hnull, Value.ofJson_optional hnull, ih h]
      | true =>
          cases json with
          | null => rfl
          | _ => cases hnull
  | list element ih =>
      cases json with
      | array items =>
          have hitems : (fun item => registry.valueOfJson item element) =
              fun item => Value.ofJson? element item := funext fun item => ih h item
          rw [valueOfJson_array rfl, itemsOfJson_eq, Value.ofJson_array, hitems]
      | _ => rfl
  | _ => cases json <;> rfl

/-! ## Empty objects -/

/-- A record of a registered shape can be read from an empty object. -/
theorem exists_assemble_empty (shape : Shape) : ∃ value, assemble shape [] = .ok value := by
  refine ⟨_, assemble_eq_ok.2 ⟨nofun, shape.fields.map fun field =>
    (field.name, Value.ofType field.type), ?_, rfl⟩⟩
  rw [List.forall₂_map_right_iff, List.forall₂_same]
  exact fun _ _ => ⟨rfl, rfl⟩

/-- An empty object is not read as a value of a shape in the same way. -/
theorem valueOfJson_empty_ne (name : String) : registry.valueOfJson (.object []) (.shape name) ≠
    Value.ofJson? (.shape name) (.object []) := by
  have hread : Value.ofJson? (.shape name) (.object []) =
      .error (.typeMismatch name (Json.object []).compact) := rfl
  simp only [hread, valueOfJson, FieldType.present]
  cases hshape : registry.shape? name with
  | none => rintro ⟨⟩
  | some shape =>
      obtain ⟨value, hvalue⟩ := exists_assemble_empty shape
      have hmembers : registry.memberResults shape [] = [] := rfl
      dsimp only
      rw [hmembers, hvalue]
      rintro ⟨⟩

/-- Arrays of one item are read alike only if the items are. -/
theorem eq_of_mapM_singleton {f g : Json → Except ValueError Value}
    (h : ([json].mapM f).map Value.list = ([json].mapM g).map Value.list) : f json = g json := by
  simp only [List.mapM_cons, List.mapM_nil] at h
  generalize f json = result at *
  generalize g json = result' at *
  cases result with
  | error error =>
      cases result' with
      | error error' =>
          cases h
          rfl
      | ok value' => cases h
  | ok value =>
      cases result' with
      | error error' => cases h
      | ok value' =>
          cases h
          rfl

/-- Where a type mentions a shape, some JSON is read differently. -/
theorem exists_read_differently {name : String} (h : type.Mentions name) :
    ∃ json, json.isNull = false ∧ registry.valueOfJson json type ≠ Value.ofJson? type json := by
  induction h with
  | shape name => exact ⟨.object [], rfl, valueOfJson_empty_ne name⟩
  | optional _ ih =>
      obtain ⟨json, hnull, hne⟩ := ih
      refine ⟨json, hnull, ?_⟩
      rwa [valueOfJson_optional_eq hnull, Value.ofJson_optional hnull]
  | list _ ih =>
      obtain ⟨json, _, hne⟩ := ih
      refine ⟨.array [json], rfl, fun heq => hne ?_⟩
      rw [valueOfJson_array rfl, itemsOfJson_eq, Value.ofJson_array] at heq
      exact eq_of_mapM_singleton heq

/-- JSON is read alike with and without a registry, down to the errors, exactly as values of the
types that mention no shape. -/
theorem readers_agree_iff (registry : Registry) (type : FieldType) :
    (∀ json, registry.valueOfJson json type = Value.ofJson? type json) ↔
      ∀ name, ¬ type.Mentions name := by
  constructor
  · intro h name hmentions
    obtain ⟨json, _, hne⟩ := exists_read_differently hmentions
    exact hne (h json)
  · intro h
    refine valueOfJson_eq_ofJson (Option.eq_none_iff_forall_ne_some.2 fun name hname => ?_)
    exact h name (mentions_iff.2 hname)

end Registry

end Reshape
