import Reshape.Command.Input

/-!
# The shapes command

Lists the shapes of a model with their fields and annotations.
-/

namespace Reshape.Command

/-- A `ShapesRequest` is what the shapes command is asked to do. -/
structure ShapesRequest where
  shapes : String

namespace ShapesRequest

/-- `fieldLine palette registry field` tells the name, type and annotation of a field. -/
def fieldLine (palette : Palette) (registry : Registry) (field : FieldDescriptor) : String :=
  "  " ++ field.name ++ " " ++ palette.paint .cyan field.type.render ++
    match registry.mapsTo? field.id with
    | some target => " " ++ palette.paint .dimmed "->" ++ " " ++ palette.paint .yellow target
    | none => ""

/-- `shapeLines palette registry shape` tells the name and the fields of a shape. -/
def shapeLines (palette : Palette) (registry : Registry) (shape : Shape) : List String :=
  palette.paint .bold shape.fullName :: shape.fields.map (fieldLine palette registry)

/-- `request.run files format palette` is the output of the command. -/
def run (request : ShapesRequest) (files : Files) (format : Format) (palette : Palette) :
    Except Failure String := do
  let registry ← loadModel files request.shapes
  match format.json? registry.document.toJson.canonical with
  | some text => return text
  | none => return "\n".intercalate (registry.shapes.flatMap (shapeLines palette registry))

end ShapesRequest

end Reshape.Command
