import Reshape.Shape.Registry
import Reshape.Value.Json

/-!
# Reading records

JSON is read as a value of a type that may mention shapes. An object read as a shape may only have
members that are fields of the shape; a field that is absent takes the default value of its type.
The fields of the record stand in the order of the shape.

The recursion follows the JSON value: the members of an object are read first, each with the type
that its field declares, and the record is put together from the results in the order of the
fields.
-/

namespace Reshape.Registry

/-- `fieldValue results field` is the value of a field, given the results for the members that are
there. -/
def fieldValue (results : List (String × Except ValueError Value)) (field : FieldDescriptor) :
    Except ValueError Value :=
  match results.lookup field.name with
  | some result => result
  | none => .ok (Value.ofType field.type)

/-- `assemble shape results` is the record of a shape, or the first error in the order of its
fields. A member that is no field is an error before all others. -/
def assemble (shape : Shape) (results : List (String × Except ValueError Value)) :
    Except ValueError Value :=
  match results.find? fun member => !shape.hasField member.1 with
  | some unknown => .error (.unknownField shape.name unknown.1)
  | none => do
    let fields ← shape.fields.mapM fun field => do
      return (field.name, ← fieldValue results field)
    return .record shape.name fields

/-- `memberType shape name` is the type that a member of an object is read with. -/
def memberType (shape : Shape) (name : String) : FieldType :=
  match shape.field? name with
  | some field => field.type
  | none => .any

mutual
/-- `registry.valueOfJson json type` reads `json` as a value of `type`. -/
def valueOfJson (registry : Registry) : Json → FieldType → Except ValueError Value
  | .null, type => Value.ofJson? type .null
  | .object members, type =>
    match type.present with
    | .shape name =>
      match registry.shape? name with
      | some shape => assemble shape (registry.memberResults shape members)
      | none => .error (.unknownShape name)
    | type => Value.ofJson? type (.object members)
  | .array items, type =>
    match type.present with
    | .list element => (registry.itemsOfJson element items).map .list
    | type => Value.ofJson? type (.array items)
  | .bool value, type => Value.ofJson? type (.bool value)
  | .number value, type => Value.ofJson? type (.number value)
  | .string value, type => Value.ofJson? type (.string value)

/-- `registry.itemsOfJson element items` reads every item as a value of type `element`. -/
def itemsOfJson (registry : Registry) (element : FieldType) :
    List Json → Except ValueError (List Value)
  | [] => .ok []
  | item :: rest => do
    let value ← registry.valueOfJson item element
    return value :: (← registry.itemsOfJson element rest)

/-- `registry.memberResults shape members` reads every member with the type of its field. -/
def memberResults (registry : Registry) (shape : Shape) :
    List (String × Json) → List (String × Except ValueError Value)
  | [] => []
  | (name, value) :: rest =>
    (name, registry.valueOfJson value (memberType shape name)) :: registry.memberResults shape rest
end

/-- `registry.recordOfJson shape json` reads `json` as a record of the shape of that name. -/
def recordOfJson (registry : Registry) (shape : String) (json : Json) : Except ValueError Value :=
  match registry.shape? shape with
  | none => .error (.unknownShape shape)
  | some found =>
    match json with
    | .object members => assemble found (registry.memberResults found members)
    | json => .error (.typeMismatch shape json.compact)

end Reshape.Registry
