import Reshape.Json.Fields
import Reshape.Json.Printer
import Reshape.Shape.Registry

/-!
# Model documents

A model document lists shapes with their fields, types as texts. `ModelDocument.load` registers the
shapes in order and then checks that every shape a field mentions is there; `Registry.document`
writes a registry as a document.
-/

namespace Reshape

/-- A `FieldDocument` is a field in a model document. -/
structure FieldDocument where
  name : String
  type : String
  mapsTo : Option String
deriving DecidableEq

/-- A `ShapeDocument` is a shape in a model document. -/
structure ShapeDocument where
  name : String
  qualifier : Option String
  fields : List FieldDocument
deriving DecidableEq

/-- A `ModelDocument` is a list of shapes. -/
structure ModelDocument where
  shapes : List ShapeDocument
deriving DecidableEq

open Json in
/-- `FieldDocument.ofRaw? raw` reads a field. -/
def FieldDocument.ofRaw? (raw : Raw) : Option FieldDocument := do
  match ← raw.fields? ["name", "type", "mapsTo"] false with
  | [name, type, mapsTo] =>
    return ⟨← Raw.requiredText? name, ← Raw.requiredText? type, ← Raw.optionalText? mapsTo⟩
  | _ => none

open Json in
/-- `ShapeDocument.ofRaw? raw` reads a shape. -/
def ShapeDocument.ofRaw? (raw : Raw) : Option ShapeDocument := do
  match ← raw.fields? ["name", "namespace", "fields"] false with
  | [name, qualifier, fields] =>
    let fields ← (← Raw.items? fields).mapM FieldDocument.ofRaw?
    return ⟨← Raw.requiredText? name, ← Raw.optionalText? qualifier, fields⟩
  | _ => none

namespace ModelDocument

open Json in
/-- `ofRaw? raw` reads a document. -/
def ofRaw? (raw : Raw) : Option ModelDocument := do
  match ← raw.fields? ["shapes"] false with
  | [shapes] => return ⟨← (← Raw.items? shapes).mapM ShapeDocument.ofRaw?⟩
  | _ => none

/-- `fieldDefinition shape document` is the field of a shape that a document describes. -/
def fieldDefinition (shape : String) (document : FieldDocument) : Except Error FieldDefinition :=
  match FieldType.read? document.type with
  | .ok type => .ok ⟨document.name, type, document.mapsTo⟩
  | .error part =>
    .error (.model ErrorCode.invalidFieldType (FieldType.readError part) (some shape))

/-- `shapeDefinition document` is the shape that a document describes. -/
def shapeDefinition (document : ShapeDocument) : Except Error ShapeDefinition := do
  let fields ← document.fields.mapM (fieldDefinition document.name)
  return ⟨document.name, document.qualifier, fields⟩

/-- `registerAll registry documents` registers the shapes in order. -/
def registerAll : Registry → List ShapeDocument → Except Error Registry
  | registry, [] => .ok registry
  | registry, document :: rest => do
    let definition ← shapeDefinition document
    registerAll (← registry.register definition) rest

/-- `document.load` is the registry of the shapes of a document. -/
def load (document : ModelDocument) : Except Error Registry := do
  let registry ← registerAll Registry.empty document.shapes
  registry.checkReferences
  return registry

end ModelDocument

namespace Registry

/-- `invalidModel` says that a text is no model document. -/
def invalidModel : Error := .model ErrorCode.modelLoadFailed "Invalid model JSON" none

/-- `ofText text` loads the model document that `text` holds. -/
def ofText (text : String) : Except Error Registry :=
  match (Json.Raw.read? text).bind ModelDocument.ofRaw? with
  | some document => document.load
  | none => .error invalidModel

/-- `registry.fieldDocument field` describes a field. -/
def fieldDocument (registry : Registry) (field : FieldDescriptor) : FieldDocument :=
  ⟨field.name, field.type.render, registry.mapsTo? field.id⟩

/-- `registry.document` describes the registry. -/
def document (registry : Registry) : ModelDocument where
  shapes := registry.shapes.map fun shape =>
    ⟨shape.name, shape.qualifier, shape.fields.map registry.fieldDocument⟩

end Registry

/-- `document.toJson` is a field as an object. -/
def FieldDocument.toJson (document : FieldDocument) : Json :=
  .object ([("name", .string document.name), ("type", .string document.type)] ++
    Json.textMember "mapsTo" document.mapsTo)

/-- `document.toJson` is a shape as an object. -/
def ShapeDocument.toJson (document : ShapeDocument) : Json :=
  .object ([("name", .string document.name)] ++ Json.textMember "namespace" document.qualifier ++
    [("fields", .array (document.fields.map FieldDocument.toJson))])

/-- `document.toJson` is a model as an object. -/
def ModelDocument.toJson (document : ModelDocument) : Json :=
  .object [("shapes", .array (document.shapes.map ShapeDocument.toJson))]

end Reshape
