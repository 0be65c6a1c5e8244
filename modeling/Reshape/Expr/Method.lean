import Reshape.FieldType

/-!
# Methods

The methods that a predicate may call. `IsNullOrEmpty` is static: its one operand is the receiver.
-/

namespace Reshape

/-- A `Method` is a method that a predicate may call. -/
inductive Method where
  | startsWith
  | endsWith
  | contains
  | toUpper
  | toLower
  | trim
  | isNullOrEmpty
  | any
deriving DecidableEq

namespace Method

/-- `all` are the methods. -/
def all : List Method :=
  [.startsWith, .endsWith, .contains, .toUpper, .toLower, .trim, .isNullOrEmpty, .any]

/-- `method.name` is the name of the method. -/
def name : Method → String
  | .startsWith => "StartsWith"
  | .endsWith => "EndsWith"
  | .contains => "Contains"
  | .toUpper => "ToUpper"
  | .toLower => "ToLower"
  | .trim => "Trim"
  | .isNullOrEmpty => "IsNullOrEmpty"
  | .any => "Any"

/-- `ofName? name` is the method of that name. -/
def ofName? (name : String) : Option Method := all.find? fun method => method.name == name

/-- `unknown name` says that there is no method of that name. -/
def unknown (name : String) : String := "Unknown method: " ++ name

/-- `method.isStatic` says the method is called on the text type and not on its receiver. -/
def isStatic : Method → Bool
  | .isNullOrEmpty => true
  | _ => false

/-- `method.accepts count` says the method takes that many arguments besides the receiver. -/
def accepts (method : Method) (count : Nat) : Bool :=
  match method with
  | .startsWith | .endsWith | .contains => count == 1
  | .toUpper | .toLower | .trim | .isNullOrEmpty => count == 0
  | .any => count ≤ 1

/-- `method.resultType` is the type of a call. -/
def resultType : Method → FieldType
  | .startsWith | .endsWith | .contains | .isNullOrEmpty | .any => .boolean
  | .toUpper | .toLower | .trim => .string

end Method

end Reshape
