import Reshape.FieldType.Text

/-!
# Shapes

A shape is a named record type: an ordered list of typed fields, in an optional namespace that only
serves display. A field definition may carry an annotation, the name of the field it maps to.
-/

namespace Reshape

/-- A `FieldId` tells a field from all others: its declaring shape and its name. -/
structure FieldId where
  shape : String
  name : String
deriving DecidableEq

/-- `id.render` is the shape and the name with a point between. -/
def FieldId.render (id : FieldId) : String := id.shape ++ "." ++ id.name

/-- A `FieldDescriptor` is a field of a shape: its name, its type and the declaring shape. -/
structure FieldDescriptor where
  name : String
  type : FieldType
  declaringShape : String
deriving DecidableEq

namespace FieldDescriptor

/-- `field.id` tells `field` from all others. -/
def id (field : FieldDescriptor) : FieldId := ⟨field.declaringShape, field.name⟩

/-- `field.render` is the type before the identity of the field. -/
def render (field : FieldDescriptor) : String := field.type.render ++ " " ++ field.id.render

end FieldDescriptor

/-- `fullName qualifier? name` is a name in its namespace. -/
def fullName (qualifier : Option String) (name : String) : String :=
  match qualifier with
  | some qualifier => qualifier ++ "." ++ name
  | none => name

/-- A `Shape` is a record type with its fields in order. `qualifier` is its namespace. -/
structure Shape where
  name : String
  qualifier : Option String
  fields : List FieldDescriptor
deriving DecidableEq

namespace Shape

/-- `shape.fullName` is the name of the shape in its namespace. -/
def fullName (shape : Shape) : String := Reshape.fullName shape.qualifier shape.name

/-- `shape.field? name` is the field of that name. -/
def field? (shape : Shape) (name : String) : Option FieldDescriptor :=
  shape.fields.find? fun field => field.name == name

/-- `shape.hasField name` says there is a field of that name. -/
def hasField (shape : Shape) (name : String) : Bool := (shape.field? name).isSome

end Shape

/-- A `FieldDefinition` is a field before it belongs to a registered shape. -/
structure FieldDefinition where
  name : String
  type : FieldType
  mapsTo : Option String
deriving DecidableEq

/-- A `ShapeDefinition` is a shape before it is registered. -/
structure ShapeDefinition where
  name : String
  qualifier : Option String
  fields : List FieldDefinition
deriving DecidableEq

namespace ShapeDefinition

/-- `definition.shape` is the shape that `definition` describes. -/
def shape (definition : ShapeDefinition) : Shape where
  name := definition.name
  qualifier := definition.qualifier
  fields := definition.fields.map fun field => ⟨field.name, field.type, definition.name⟩

/-- `definition.annotations` are the annotations of its fields. -/
def annotations (definition : ShapeDefinition) : List (FieldId × String) :=
  definition.fields.filterMap fun field =>
    field.mapsTo.map fun target => (⟨definition.name, field.name⟩, target)

/-- `repeatedField? seen fields` is the first name that was seen before. -/
def repeatedField? (seen : List String) : List FieldDefinition → Option String
  | [] => none
  | field :: rest =>
    if field.name ∈ seen then some field.name else repeatedField? (field.name :: seen) rest

end ShapeDefinition

end Reshape
