import Reshape.Document.Json
import Reshape.Expr.Access
import Reshape.Predicate
import Reshape.Value.Json

/-!
# Documents and predicates

`Document.bind` makes a predicate of a document: names of parameters are resolved to the innermost
parameter of that name, names of fields on the static type of their target, and constants are read
as values of their type, or of the type that they have of themselves. `Predicate.describe` goes
back.

Every parameter of a document gets an identity of its own, counted up from a given one.
-/

namespace Reshape

namespace Document

/-- A `Binding` is a computation that may fail and counts identities. -/
abbrev Binding := StateT Nat (Except Error)

/-- `invalid message` says that a document is not valid. -/
def invalid (message : String) : Error := .model ErrorCode.invalidDocument message none

/-- `unknownParameter name` says that no parameter of that name is in scope. -/
def unknownParameter (name : Option String) : Error :=
  invalid ("Unknown parameter '" ++ name.getD "_" ++ "'")

/-- `unknownShape shape` says that the shape of a document is not registered. -/
def unknownShape (shape : String) : Error :=
  invalid ("Predicate document refers to unknown shape '" ++ shape ++ "'")

/-- `readType text` is the type that a document gives. -/
def readType (text : String) : Except Error FieldType :=
  match FieldType.read? text with
  | .ok type => .ok type
  | .error _ => .error (invalid ("Invalid type '" ++ text ++ "'"))

/-- `readConstant type json` is the value of a constant. -/
def readConstant (type : FieldType) (json : Json) : Except Error Value :=
  match Value.ofJson? type json with
  | .ok value => .ok value
  | .error error =>
    .error (invalid ("Invalid constant " ++ json.compact ++ ": " ++ error.message))

/-- `bindConstant json type?` is a constant of a document. -/
def bindConstant (json : Json) : Option String → Except Error Expr
  | some text => do
    let type ← readType text
    return .constant (← readConstant type json) type
  | none => do return .ofValue (← readConstant .any json)

/-- `findParameter scopes name` is the innermost parameter of that name. -/
def findParameter (scopes : List Parameter) (name : Option String) : Except Error Parameter :=
  match scopes.find? fun p => p.name == name with
  | some p => .ok p
  | none => .error (unknownParameter name)

/-- `newParameter name type` is a parameter with an identity of its own. -/
def newParameter (name : Option String) (type : FieldType) : Binding Parameter :=
  modifyGet fun next => (⟨next, name, type⟩, next + 1)

mutual
/-- `bindNode registry scopes node` is the expression that a node stands for. -/
def bindNode (registry : Registry) (scopes : List Parameter) : Node → Binding Expr
  | .parameter name => do return .parameter (← findParameter scopes name)
  | .member target field => do
    let target ← bindNode registry scopes target
    Expr.access registry target field
  | .constant value type => bindConstant value type
  | .binary op left right => do
    let left ← bindNode registry scopes left
    let right ← bindNode registry scopes right
    return .binary op left right
  | .unary op operand => do
    let operand ← bindNode registry scopes operand
    return .unary op operand
  | .call method receiver arguments => do
    let receiver ← bindNode registry scopes receiver
    let arguments ← bindArguments registry scopes arguments
    return .call method receiver arguments
  | .conditional test ifTrue ifFalse => do
    let test ← bindNode registry scopes test
    let ifTrue ← bindNode registry scopes ifTrue
    let ifFalse ← bindNode registry scopes ifFalse
    return .conditional test ifTrue ifFalse
  | .lambda name type body => do
    let parameter ← newParameter name (← readType type)
    let body ← bindNode registry (parameter :: scopes) body
    return .lambda parameter body
  | .init shape bindings => do
    let bindings ← bindBindings registry scopes bindings
    return .init shape bindings

/-- `bindArguments registry scopes nodes` are the expressions that nodes stand for. -/
def bindArguments (registry : Registry) (scopes : List Parameter) : List Node → Binding (List Expr)
  | [] => return []
  | node :: rest => do
    let argument ← bindNode registry scopes node
    let rest ← bindArguments registry scopes rest
    return argument :: rest

/-- `bindBindings registry scopes bindings` binds names to the expressions that nodes stand for. -/
def bindBindings (registry : Registry) (scopes : List Parameter) :
    List (String × Node) → Binding (List (String × Expr))
  | [] => return []
  | (name, node) :: rest => do
    let value ← bindNode registry scopes node
    let rest ← bindBindings registry scopes rest
    return (name, value) :: rest
end

/-- `document.bindFrom registry` is the predicate that the document stands for, as a computation. -/
def bindFrom (document : Document) (registry : Registry) : Binding Predicate :=
  if (registry.shape? document.shape).isNone then throw (unknownShape document.shape)
  else do
    let parameter ← newParameter document.parameter (.shape document.shape)
    let body ← bindNode registry [parameter] document.body
    return ⟨parameter, body⟩

/-- `document.bind registry nextIdentity` is the predicate that the document stands for, with the
next identity after its parameters. -/
def bind (document : Document) (registry : Registry) (nextIdentity : Nat) :
    Except Error (Predicate × Nat) :=
  (document.bindFrom registry).run nextIdentity

/-- `unreadable` says that a text is no document. -/
def unreadable : Error := invalid "Invalid predicate document"

/-- `bindText text registry nextIdentity` is the predicate of the document that `text` holds. -/
def bindText (text : String) (registry : Registry) (nextIdentity : Nat) :
    Except Error (Predicate × Nat) :=
  match (Json.Raw.read? text).bind ofRaw? with
  | some document => document.bind registry nextIdentity
  | none => .error unreadable

end Document

namespace Node

mutual
/-- `ofExpr e` is `e` as it is written down; the type of a constant always is. -/
def ofExpr : Expr → Node
  | .parameter p => .parameter p.name
  | .member target field => .member (ofExpr target) field.name
  | .constant value type => .constant value.toJson (some type.render)
  | .binary op left right => .binary op (ofExpr left) (ofExpr right)
  | .unary op operand => .unary op (ofExpr operand)
  | .call method receiver arguments => .call method (ofExpr receiver) (ofArguments arguments)
  | .conditional test ifTrue ifFalse => .conditional (ofExpr test) (ofExpr ifTrue) (ofExpr ifFalse)
  | .lambda p body => .lambda p.name p.type.render (ofExpr body)
  | .init shape bindings => .init shape (ofBindings bindings)

/-- `ofArguments arguments` are the arguments as they are written down. -/
def ofArguments : List Expr → List Node
  | [] => []
  | argument :: rest => ofExpr argument :: ofArguments rest

/-- `ofBindings bindings` are the bindings as they are written down. -/
def ofBindings : List (String × Expr) → List (String × Node)
  | [] => []
  | (name, value) :: rest => (name, ofExpr value) :: ofBindings rest
end

end Node

namespace Predicate

/-- `predicate.describe` is the predicate as it is written down. -/
def describe (predicate : Predicate) : Document where
  parameter := predicate.parameter.name
  shape := predicate.shape?.getD predicate.parameter.type.render
  body := Node.ofExpr predicate.body

/-- `predicate.json` is the document of the predicate as JSON. -/
def json (predicate : Predicate) : Json := predicate.describe.toJson

end Predicate

end Reshape
