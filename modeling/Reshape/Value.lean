import Reshape.Decimal.Text
import Reshape.FieldType
import Reshape.Instant
import Reshape.Text.Quoted

/-!
# Values

The values that predicates are evaluated on and that constants hold. A record lists its fields in
the order they were set, as `Entries.put` sets them.
-/

namespace Reshape

/-- A `Value` is a runtime value. A record is an instance of a shape, with its fields in order. -/
inductive Value where
  | null
  | boolean (value : Bool)
  | integer (value : Int64)
  | decimal (value : Decimal)
  | string (value : String)
  | dateTime (value : Instant)
  | list (items : List Value)
  | record (shape : String) (fields : List (String × Value))
deriving Inhabited

namespace Value

/-- `value.isNull` says `value` is null. -/
def isNull : Value → Bool
  | .null => true
  | _ => false

/-- `value.kind` names the kind of `value` in messages. -/
def kind : Value → String
  | .null => "null"
  | .boolean _ => "Boolean"
  | .integer _ => "Integer"
  | .decimal _ => "Decimal"
  | .string _ => "String"
  | .dateTime _ => "DateTime"
  | .list _ => "List"
  | .record _ _ => "Record"

/-- `ofType type` is the default value of a type: zero or false, and null where that is a value. -/
def ofType : FieldType → Value
  | .boolean => .boolean false
  | .integer | .long => .integer 0
  | .decimal => .decimal Decimal.zero
  | .dateTime => .dateTime Instant.earliest
  | .any | .string | .optional _ | .list _ | .shape _ => .null

/-- `value.inferredType` is the type of a constant that holds `value`. A list has the type of its
first item. -/
def inferredType : Value → FieldType
  | .null => .any
  | .boolean _ => .boolean
  | .integer _ => .integer
  | .decimal _ => .decimal
  | .string _ => .string
  | .dateTime _ => .dateTime
  | .list [] => .list .any
  | .list (item :: _) => .list item.inferredType
  | .record shape _ => .shape shape

mutual
/-- `value.render` is `value` as a text. -/
def render : Value → String
  | .null => "null"
  | .boolean value => if value then "true" else "false"
  | .integer value => String.ofList (integerChars value.toInt)
  | .decimal value => value.render ++ "m"
  | .string value => Text.quoted value
  | .dateTime value => value.render
  | .list items => "[" ++ renderItems items ++ "]"
  | .record shape fields => shape ++ " \x7b " ++ renderFields fields ++ " \x7d"

/-- `renderItems items` are the items with commas between. -/
def renderItems : List Value → String
  | [] => ""
  | [item] => item.render
  | item :: rest => item.render ++ ", " ++ renderItems rest

/-- `renderFields fields` are the fields with commas between. -/
def renderFields : List (String × Value) → String
  | [] => ""
  | [(name, value)] => name ++ " = " ++ value.render
  | (name, value) :: rest => name ++ " = " ++ value.render ++ ", " ++ renderFields rest
end

end Value

end Reshape
