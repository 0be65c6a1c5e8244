import Reshape.FieldType

/-!
# Shapes and elements of types

The shape that a type names, and that of its elements, are the one shape that it mentions. A
parameter ranges over the items of a list when it is of the element type or over the shape that this
type names; a parameter of a type without shapes ranges over anything.
-/

namespace Reshape.FieldType

variable {type element : FieldType} {name : String}

/-- `type.element?` is the type of the elements of a list type, optional or not. -/
def element? : FieldType → Option FieldType
  | .list element => some element
  | .optional inner => inner.element?
  | _ => none

/-- `type.Mentions name` says that the name of a shape occurs in a type at some depth. -/
inductive Mentions : FieldType → String → Prop where
  | shape (name : String) : Mentions (.shape name) name
  | optional {inner : FieldType} {name : String} :
      Mentions inner name → Mentions (.optional inner) name
  | list {element : FieldType} {name : String} :
      Mentions element name → Mentions (.list element) name

/-- The shape that a type mentions is the one that is found in it. -/
theorem mentions_iff : type.Mentions name ↔ type.mentioned? = some name := by
  induction type with
  | shape other =>
      constructor
      · rintro ⟨⟩
        rfl
      · rintro ⟨⟩
        exact .shape name
  | optional inner ih => exact ⟨fun | .optional h => ih.1 h, fun h => .optional (ih.2 h)⟩
  | list element ih => exact ⟨fun | .list h => ih.1 h, fun h => .list (ih.2 h)⟩
  | _ => exact ⟨nofun, nofun⟩

/-- A type mentions the shape that it names. -/
theorem mentioned_of_shapeName (h : type.shapeName? = some name) : type.mentioned? = some name := by
  induction type with
  | shape => exact h
  | optional inner ih => exact ih h
  | _ => cases h

/-- A list type mentions the shape that its element type mentions. -/
theorem mentioned_of_element (h : type.element? = some element) :
    type.mentioned? = element.mentioned? := by
  induction type with
  | list inner =>
      cases h
      rfl
  | optional inner ih => exact ih h
  | _ => cases h

/-- The shape of the elements is the one that the element type names. -/
theorem elementShapeName_eq (type : FieldType) :
    type.elementShapeName? = type.element?.bind shapeName? := by
  induction type with
  | optional inner ih => exact ih
  | _ => rfl

theorem mentioned_of_elementShapeName (h : type.elementShapeName? = some name) :
    type.mentioned? = some name := by
  rw [elementShapeName_eq] at h
  obtain ⟨element, helement, h⟩ := Option.bind_eq_some_iff.1 h
  rw [mentioned_of_element helement, mentioned_of_shapeName h]

/-- A list type names no shape. -/
theorem shapeName_of_element (h : type.element? = some element) :
    type.shapeName? = none := by
  induction type with
  | shape => cases h
  | optional inner ih => exact ih h
  | _ => rfl

/-- `type.holdsItems` says that values of a type may be lists. -/
def holdsItems : FieldType → Bool
  | .list _ | .any => true
  | .optional inner => inner.holdsItems
  | _ => false

/-- `type.RangesOver list` says that a parameter of a type ranges over the items of a list type: it
mentions no shape, has the element type, or is over the shape that the element type names. -/
def RangesOver (type list : FieldType) : Prop :=
  type.mentioned? = none ∨ list.element? = some type ∨
    list.elementShapeName?.map shape = some type

instance (type list : FieldType) : Decidable (type.RangesOver list) :=
  inferInstanceAs (Decidable (_ ∨ _ ∨ _))

end Reshape.FieldType
