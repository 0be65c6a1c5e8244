import Reshape.Diagnostic

/-!
# Errors

What can go wrong while models are loaded, predicates read and converted. Each kind of error
carries a code and a message; a member that cannot be mapped carries the details instead.
`Error.message` and `Error.diagnostic` say it to a person.
-/

namespace Reshape

/-- An `UnmappedMember` is a field access without counterpart: the field and its shape, the name
that was looked for and the shape it was looked for on, and the access as text. -/
structure UnmappedMember where
  sourceMember : String
  sourceShape : String
  destinationMember : String
  destinationShape : String
  expression : String
deriving DecidableEq

/-- `details.message` says what could not be mapped, and where it was looked for. -/
def UnmappedMember.message (details : UnmappedMember) : String :=
  "Member '" ++ details.sourceMember ++ "' from source type '" ++ details.sourceShape ++
    "' (attempting to map to '" ++ details.destinationMember ++
    "') could not be mapped because the destination member was not found on type '" ++
    details.destinationShape ++ "'. Full source member expression being processed: " ++
    details.expression

/-- An `Error` is a problem that ends an operation. A model error may name the shape it is about. -/
inductive Error where
  | configuration (code : ErrorCode) (message : String)
  | unmappedMember (details : UnmappedMember)
  | traversal (code : ErrorCode) (message : String)
  | model (code : ErrorCode) (message : String) (shape : Option String)
  | system (code : ErrorCode) (message : String)
deriving DecidableEq

namespace Error

/-- `error.code` is the code of the error. -/
def code : Error → ErrorCode
  | .configuration code _ => code
  | .unmappedMember _ => ErrorCode.unmappedMember
  | .traversal code _ => code
  | .model code _ _ => code
  | .system code _ => code

/-- `error.text` is the message without the code. -/
def text : Error → String
  | .configuration _ message => message
  | .unmappedMember details => details.message
  | .traversal _ message => message
  | .model _ message _ => message
  | .system _ message => message

/-- `error.message` is the message after the code. -/
def message (error : Error) : String :=
  error.code.render ++ ": " ++ error.text

/-- `error.isConfiguration` says the caller's input is at fault and not the predicate. -/
def isConfiguration : Error → Bool
  | .configuration _ _ => true
  | _ => false

/-- `error.unmapped?` are the details of a member that cannot be mapped. -/
def unmapped? : Error → Option UnmappedMember
  | .unmappedMember details => some details
  | _ => none

/-- `error.help?` names the shape a model error is about, and is else the advice for the code. -/
def help? : Error → Option String
  | .model _ _ (some shape) => some ("while processing shape '" ++ shape ++ "'")
  | error => error.code.help?

/-- `error.diagnostic` is the error as a diagnostic. -/
def diagnostic (error : Error) : Diagnostic :=
  ⟨.error, error.code, error.text, error.help?⟩

/-- `missing what` says that a required input is missing. -/
def missing (what : String) : Error :=
  .configuration ErrorCode.missingInput ("Value cannot be null. (Parameter '" ++ what ++ "')")

/-- `withContext message context?` appends the context to a message. -/
def withContext (message : String) : Option String → String
  | some context => message ++ ": " ++ context
  | none => message

/-- `internal` is the error for what should not happen. -/
def internal : Error := .traversal ErrorCode.internal ErrorCode.internal.description

end Error

end Reshape
