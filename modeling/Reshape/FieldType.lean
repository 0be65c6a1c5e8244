/-!
# Field types

The declared types of fields, constants and expressions. A type may be optional, a list, or the
name of a shape of the same model.
-/

namespace Reshape

/-- A `FieldType` is the declared type of a field, a constant or an expression. -/
inductive FieldType where
  | any
  | boolean
  | integer
  | long
  | decimal
  | string
  | dateTime
  | optional (inner : FieldType)
  | list (element : FieldType)
  | shape (name : String)
deriving DecidableEq, Inhabited

namespace FieldType

/-- `type.shapeName?` is the shape that `type` names, optional or not. -/
def shapeName? : FieldType → Option String
  | .shape name => some name
  | .optional inner => inner.shapeName?
  | _ => none

/-- `type.elementShapeName?` is the shape of the elements of a list type, optional or not. -/
def elementShapeName? : FieldType → Option String
  | .list element => element.shapeName?
  | .optional inner => inner.elementShapeName?
  | _ => none

/-- `type.mentioned?` is the one shape that `type` mentions at some depth. -/
def mentioned? : FieldType → Option String
  | .shape name => some name
  | .optional inner => inner.mentioned?
  | .list element => element.mentioned?
  | _ => none

/-- `type.isNullable` says `null` is a value of `type`. -/
def isNullable : FieldType → Bool
  | .any | .string | .optional _ | .list _ | .shape _ => true
  | _ => false

/-- `type.isNumeric` says `type` is a type of numbers, optional or not. -/
def isNumeric : FieldType → Bool
  | .integer | .long | .decimal => true
  | .optional inner => inner.isNumeric
  | _ => false

/-- `type.present` is what `type` holds when it is not null. -/
def present : FieldType → FieldType
  | .optional inner => inner.present
  | type => type

/-- `type.isBooleanResult` says a predicate may have a body of this type. -/
def isBooleanResult : FieldType → Bool
  | .boolean | .any => true
  | .optional inner => inner == .boolean
  | _ => false

end FieldType

end Reshape
