import Reshape.Decimal.Binary64
import Reshape.FieldType.Text
import Reshape.Json.Printer
import Reshape.Value

/-!
# Values as JSON

`Value.ofJson?` reads JSON as a value of a declared type other than a shape, `Value.toJson` writes a
value. Under type `Any` every JSON value is read; what has no counterpart becomes null. Decimals are
written through binary64.
-/

namespace Reshape

/-- A `ValueError` says why JSON is no value of a type. -/
inductive ValueError where
  | typeMismatch (expected found : String)
  | unknownShape (shape : String)
  | unknownField (shape field : String)
deriving DecidableEq

/-- `error.message` is the text of an error. -/
def ValueError.message : ValueError → String
  | .typeMismatch expected found => "Type mismatch: expected " ++ expected ++ ", found " ++ found
  | .unknownShape shape => "Unknown shape: " ++ shape
  | .unknownField shape field => "Unknown field '" ++ field ++ "' on shape '" ++ shape ++ "'"

namespace Value

mutual
/-- `ofPlainJson json` is the value that JSON has of itself. -/
def ofPlainJson : Json → Value
  | .null => .null
  | .bool value => .boolean value
  | .number number =>
    match number.toInt64? with
    | some value => .integer value
    | none =>
      match Decimal.read? number.render with
      | some value => .decimal value
      | none => .null
  | .string value => .string value
  | .array items => .list (ofPlainItems items)
  | .object _ => .null

/-- `ofPlainItems items` are the values of the items. -/
def ofPlainItems : List Json → List Value
  | [] => []
  | item :: rest => ofPlainJson item :: ofPlainItems rest
end

/-- `orMismatch type json value?` is an error when there is no value. -/
def orMismatch (type : FieldType) (json : Json) : Option Value → Except ValueError Value
  | some value => .ok value
  | none => .error (.typeMismatch type.render json.compact)

/-- `ofJson? type json` reads `json` as a value of `type`. -/
def ofJson? (type : FieldType) (json : Json) : Except ValueError Value :=
  if json.isNull && type.isNullable then .ok .null
  else
    match type with
    | .optional inner => ofJson? inner json
    | .any => .ok (ofPlainJson json)
    | .boolean =>
      orMismatch .boolean json <| match json with
        | .bool value => some (.boolean value)
        | _ => none
    | .integer =>
      orMismatch .integer json <| match json with
        | .number number => number.toInt64?.map .integer
        | _ => none
    | .long =>
      orMismatch .long json <| match json with
        | .number number => number.toInt64?.map .integer
        | _ => none
    | .decimal =>
      orMismatch .decimal json <| match json with
        | .number number => (Decimal.read? number.render).map .decimal
        | .string text => (Decimal.read? text).map .decimal
        | _ => none
    | .string =>
      orMismatch .string json <| match json with
        | .string text => some (.string text)
        | _ => none
    | .dateTime =>
      orMismatch .dateTime json <| match json with
        | .string text => (Instant.read? text).map .dateTime
        | _ => none
    | .list element =>
      match json with
      | .array items => (items.mapM fun item => ofJson? element item).map .list
      | json => orMismatch (.list element) json none
    | .shape name => orMismatch (.shape name) json none

mutual
/-- `value.toJson` is `value` as JSON; the members of a record are sorted by name. -/
def toJson : Value → Json
  | .null => .null
  | .boolean value => .bool value
  | .integer value => .integer value.toInt
  | .decimal value =>
    match value.toBinary64? with
    | some number => .number (.binary number)
    | none => .string value.render
  | .string value => .string value
  | .dateTime value => .string value.render
  | .list items => .array (toJsonItems items)
  | .record _ fields => .object (Json.sortMembers (toJsonMembers fields))

/-- `toJsonItems items` are the items as JSON. -/
def toJsonItems : List Value → List Json
  | [] => []
  | item :: rest => item.toJson :: toJsonItems rest

/-- `toJsonMembers fields` are the fields as members. -/
def toJsonMembers : List (String × Value) → List (String × Json)
  | [] => []
  | (name, value) :: rest => (name, value.toJson) :: toJsonMembers rest
end

end Value

end Reshape
