import Reshape.Error
import Reshape.Shape

/-!
# The registry of shapes

A registry holds shapes in the order they were registered, and the annotations of their fields. A
registration fails, and changes nothing, when the definition repeats a field or the name is taken;
a registered shape never changes.
-/

namespace Reshape

/-- An `AnnotationTable` tells the name that a field maps to. Tables of different `scope` are
different tables, whatever their fields are called. -/
structure AnnotationTable where
  scope : Nat
  mapsTo? : FieldId → Option String

/-- A `Registry` is a model: its shapes in order, and the annotations of their fields. -/
structure Registry where
  shapes : List Shape
  annotations : List (FieldId × String)

namespace Registry

/-- `empty` has no shapes. -/
def empty : Registry := ⟨[], []⟩

/-- `registry.shape? name` is the shape of that name. -/
def shape? (registry : Registry) (name : String) : Option Shape :=
  registry.shapes.find? fun shape => shape.name == name

/-- `registry.member? shape name` is the field of that name on that shape. -/
def member? (registry : Registry) (shape name : String) : Option FieldDescriptor :=
  (registry.shape? shape).bind fun found => found.field? name

/-- `registry.mapsTo? id` is the annotation of a field. -/
def mapsTo? (registry : Registry) (id : FieldId) : Option String :=
  registry.annotations.lookup id

/-- `registry.table scope` is the table of the annotations of the registry. -/
def table (registry : Registry) (scope : Nat) : AnnotationTable :=
  ⟨scope, registry.mapsTo?⟩

/-- `registry.shapeNames` are the names of the shapes in order. -/
def shapeNames (registry : Registry) : List String := registry.shapes.map (·.name)

/-- `registry.fullName shape` is the name of a shape in its namespace, or the name itself when no
such shape is registered. -/
def fullName (registry : Registry) (shape : String) : String :=
  match registry.shape? shape with
  | some found => found.fullName
  | none => shape

/-- `repeatedField shape field` says that a definition repeats a field. -/
def repeatedField (shape field : String) : Error :=
  .model ErrorCode.duplicateField ("Duplicate field '" ++ field ++ "' on shape '" ++ shape ++ "'")
    (some shape)

/-- `alreadyRegistered shape` says that the name of a shape is taken. -/
def alreadyRegistered (shape : String) : Error :=
  .model ErrorCode.modelLoadFailed ("Shape '" ++ shape ++ "' is already registered") (some shape)

/-- `registry.register definition` adds a shape and the annotations of its fields. -/
def register (registry : Registry) (definition : ShapeDefinition) : Except Error Registry :=
  match ShapeDefinition.repeatedField? [] definition.fields with
  | some field => .error (repeatedField definition.name field)
  | none =>
    if (registry.shape? definition.name).isSome then .error (alreadyRegistered definition.name)
    else .ok ⟨registry.shapes ++ [definition.shape], registry.annotations ++ definition.annotations⟩

/-- `shapeNotFound shape` says that a shape is not registered. -/
def shapeNotFound (shape : String) : Error :=
  .model ErrorCode.shapeNotFound ("Shape not found: " ++ shape) none

/-- `fieldNotFound shape name` says that a shape has no field of that name. -/
def fieldNotFound (shape name : String) : Error :=
  .model ErrorCode.fieldNotFound ("Field not found: " ++ shape ++ "." ++ name) (some shape)

/-- `registry.field shape name` is the field of that name on that shape. -/
def field (registry : Registry) (shape name : String) : Except Error FieldDescriptor :=
  match registry.shape? shape with
  | none => .error (shapeNotFound shape)
  | some found =>
    match found.field? name with
    | some field => .ok field
    | none => .error (fieldNotFound shape name)

/-- `danglingReference field target` says that a field has the type of an unknown shape. -/
def danglingReference (field : FieldDescriptor) (target : String) : Error :=
  .model ErrorCode.shapeNotFound
    ("Field " ++ field.id.render ++ " references unknown shape '" ++ target ++ "'")
    (some field.declaringShape)

/-- `registry.dangling? field` is the unknown shape that the type of `field` mentions. -/
def dangling? (registry : Registry) (field : FieldDescriptor) : Option String :=
  field.type.mentioned?.filter fun target => (registry.shape? target).isNone

/-- `registry.checkReferences` fails at the first field whose type mentions an unknown shape. -/
def checkReferences (registry : Registry) : Except Error Unit :=
  match (registry.shapes.flatMap (·.fields)).findSome? fun field =>
      (registry.dangling? field).map (danglingReference field) with
  | some error => .error error
  | none => .ok ()

end Registry

end Reshape
