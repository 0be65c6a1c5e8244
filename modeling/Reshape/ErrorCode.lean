import Reshape.Number.Digits

/-!
# Error codes

Every problem has a numeric code. The hundreds tell the category: configuration, member mapping,
traversal, model, system.
-/

namespace Reshape

/-- An `ErrorCode` is the number of a kind of problem. -/
structure ErrorCode where
  number : Nat
deriving DecidableEq

namespace ErrorCode

/-- `code.render` is `RC` and at least four digits. -/
def render (code : ErrorCode) : String :=
  String.ofList ('R' :: 'C' :: padded code.number 4)

/-- `code.within low high` says the number lies from `low` up to but not including `high`. -/
def within (low high : Nat) (code : ErrorCode) : Bool :=
  low ≤ code.number && code.number < high

/-- Codes from 1 on are for missing or invalid input of the caller. -/
def isConfiguration (code : ErrorCode) : Bool := code.within 1 100

/-- Codes from 100 on are for members that cannot be mapped. -/
def isMapping (code : ErrorCode) : Bool := code.within 100 200

/-- Codes from 200 on are for trees that cannot be converted. -/
def isTraversal (code : ErrorCode) : Bool := code.within 200 300

/-- Codes from 300 on are for models and documents. -/
def isModel (code : ErrorCode) : Bool := code.within 300 400

/-- Codes from 400 on are for the system. -/
def isSystem (code : ErrorCode) : Bool := code.within 400 500

/-- A required input is missing. -/
def missingInput : ErrorCode := ⟨1⟩

/-- The destination shape is unknown. -/
def unknownDestination : ErrorCode := ⟨2⟩

/-- The source shape is unknown. -/
def unknownSource : ErrorCode := ⟨3⟩

/-- A mapping lambda has no object initializer as its body. -/
def notInitializer : ErrorCode := ⟨4⟩

/-- A conversion configuration cannot be read. -/
def invalidConfiguration : ErrorCode := ⟨5⟩

/-- A member has no counterpart in the destination shape. -/
def unmappedMember : ErrorCode := ⟨100⟩

/-- A converted body no longer yields a boolean. -/
def noResult : ErrorCode := ⟨200⟩

/-- A call has a number of arguments that its method does not accept. -/
def invalidStructure : ErrorCode := ⟨201⟩

/-- A shape is not registered. -/
def shapeNotFound : ErrorCode := ⟨300⟩

/-- A shape has no field of a name. -/
def fieldNotFound : ErrorCode := ⟨301⟩

/-- A shape has two fields of one name. -/
def duplicateField : ErrorCode := ⟨302⟩

/-- A field has a text as its type that is none. -/
def invalidFieldType : ErrorCode := ⟨303⟩

/-- A model cannot be loaded. -/
def modelLoadFailed : ErrorCode := ⟨304⟩

/-- A predicate document cannot be read. -/
def invalidDocument : ErrorCode := ⟨305⟩

/-- Something went wrong inside. -/
def internal : ErrorCode := ⟨400⟩

/-- A file cannot be read or written. -/
def inputOutput : ErrorCode := ⟨401⟩

/-- `code.description` says in a few words what the code is for. -/
def description (code : ErrorCode) : String :=
  match code.number with
  | 1 => "Missing required input"
  | 2 => "Unknown destination shape"
  | 3 => "Unknown source shape"
  | 4 => "Mapping lambda must use an object initializer"
  | 5 => "Invalid conversion configuration"
  | 100 => "Member could not be mapped"
  | 200 => "Sub-expression produced no result"
  | 201 => "Invalid expression structure"
  | 300 => "Shape not found"
  | 301 => "Field not found"
  | 302 => "Duplicate field"
  | 303 => "Invalid field type"
  | 304 => "Model load failed"
  | 305 => "Invalid predicate document"
  | 400 => "Internal error"
  | 401 => "I/O error"
  | _ => "Unknown error"

/-- `code.help?` is advice for the codes that have any. -/
def help? (code : ErrorCode) : Option String :=
  match code.number with
  | 2 => some "Register the destination shape with the model before converting"
  | 100 => some "Add a member map entry, a maps-to annotation, or a custom map for the member"
  | _ => none

end ErrorCode

end Reshape
