import Reshape.Expr.Method
import Reshape.Expr.Operator
import Reshape.Shape.Registry
import Reshape.Value

/-!
# Expressions

The tree of a predicate's body. A parameter has an identity of its own: two references denote the
same parameter when their identities agree, whatever their names. `Expr.resultType` is the static
type of an expression, `Expr.access` an access to a field that is looked up on that type.
-/

namespace Reshape

/-- A `Parameter` is a lambda parameter: its identity, its name if it has one, and its type. -/
structure Parameter where
  identity : Nat
  name : Option String
  type : FieldType
deriving DecidableEq

namespace Parameter

/-- `p.denotes q` says `p` and `q` are the same parameter. -/
def denotes (p q : Parameter) : Bool := p.identity == q.identity

/-- `p.shape?` is the shape that `p` ranges over. -/
def shape? (p : Parameter) : Option String := p.type.shapeName?

/-- `p.displayName` is the name of `p`, or an underscore. -/
def displayName (p : Parameter) : String := p.name.getD "_"

end Parameter

/-- An `Expr` is an expression over parameters. -/
inductive Expr where
  | parameter (parameter : Parameter)
  | member (target : Expr) (field : FieldDescriptor)
  | constant (value : Value) (type : FieldType)
  | binary (op : BinaryOp) (left right : Expr)
  | unary (op : UnaryOp) (operand : Expr)
  | call (method : Method) (receiver : Expr) (arguments : List Expr)
  | conditional (test ifTrue ifFalse : Expr)
  | lambda (parameter : Parameter) (body : Expr)
  | init (shape : String) (bindings : List (String × Expr))
deriving Inhabited

namespace Expr

/-- `ofValue value` is a constant of the type that its value has. -/
def ofValue (value : Value) : Expr := .constant value value.inferredType

/-- `arithmeticType op left right` is the type of a binary expression that is neither a comparison
nor logical, given the types of its operands. -/
def arithmeticType (op : BinaryOp) (left right : FieldType) : FieldType :=
  match op, left with
  | .coalesce, .optional inner => if right.isNullable then left else inner
  | .coalesce, _ => left
  | _, _ =>
    if op = .add ∧ (left = .string ∨ right = .string) then .string
    else if left = .decimal ∨ right = .decimal then .decimal
    else left

/-- `e.resultType` is the static type of `e`. -/
def resultType : Expr → FieldType
  | .parameter p => p.type
  | .member _ field => field.type
  | .constant _ type => type
  | .binary op left right =>
    if op.isComparison || op.isLogical then .boolean
    else arithmeticType op left.resultType right.resultType
  | .unary .not _ => .boolean
  | .unary .negate operand => operand.resultType
  | .call method _ _ => method.resultType
  | .conditional _ ifTrue _ => ifTrue.resultType
  | .lambda _ body => body.resultType
  | .init shape _ => .shape shape

/-- `e.shape?` is the shape on which fields of `e` are looked up. -/
def shape? (e : Expr) : Option String := e.resultType.shapeName?

/-- `e.children` are the direct parts of `e`, in the order they are evaluated. -/
def children : Expr → List Expr
  | .parameter _ | .constant _ _ => []
  | .member target _ => [target]
  | .binary _ left right => [left, right]
  | .unary _ operand => [operand]
  | .call _ receiver arguments => receiver :: arguments
  | .conditional test ifTrue ifFalse => [test, ifTrue, ifFalse]
  | .lambda _ body => [body]
  | .init _ bindings => bindings.map (·.2)

mutual
/-- `e.nodes` are `e` and all its parts, parents first. -/
def nodes : Expr → List Expr
  | .parameter p => [.parameter p]
  | .member target field => .member target field :: target.nodes
  | .constant value type => [.constant value type]
  | .binary op left right => .binary op left right :: (left.nodes ++ right.nodes)
  | .unary op operand => .unary op operand :: operand.nodes
  | .call method receiver arguments =>
    .call method receiver arguments :: (receiver.nodes ++ nodesOfArguments arguments)
  | .conditional test ifTrue ifFalse =>
    .conditional test ifTrue ifFalse :: (test.nodes ++ ifTrue.nodes ++ ifFalse.nodes)
  | .lambda p body => .lambda p body :: body.nodes
  | .init shape bindings => .init shape bindings :: nodesOfBindings bindings

/-- `nodesOfArguments arguments` are the arguments and all their parts. -/
def nodesOfArguments : List Expr → List Expr
  | [] => []
  | argument :: rest => argument.nodes ++ nodesOfArguments rest

/-- `nodesOfBindings bindings` are the bound expressions and all their parts. -/
def nodesOfBindings : List (String × Expr) → List Expr
  | [] => []
  | (_, value) :: rest => value.nodes ++ nodesOfBindings rest
end

/-- `e.isReferenceTo p` says `e` is a reference to `p`. -/
def isReferenceTo (e : Expr) (p : Parameter) : Bool :=
  match e with
  | .parameter q => q.denotes p
  | _ => false

end Expr

end Reshape
