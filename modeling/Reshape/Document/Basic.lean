import Reshape.Expr.Method
import Reshape.Expr.Operator
import Reshape.Json.Basic

/-!
# Predicate documents

A predicate as it is written down: the name and shape of its parameter, and its body as a tree of
nodes. Nodes refer to parameters and fields by name, types are texts, and constants are JSON.
-/

namespace Reshape

/-- A `Node` is an expression as it is written down. -/
inductive Node where
  | parameter (name : Option String)
  | member (target : Node) (field : String)
  | constant (value : Json) (type : Option String)
  | binary (op : BinaryOp) (left right : Node)
  | unary (op : UnaryOp) (operand : Node)
  | call (method : Method) (receiver : Node) (arguments : List Node)
  | conditional (test ifTrue ifFalse : Node)
  | lambda (parameter : Option String) (type : String) (body : Node)
  | init (shape : String) (bindings : List (String × Node))
deriving Inhabited

/-- A `Document` is a predicate as it is written down. -/
structure Document where
  parameter : Option String
  shape : String
  body : Node

end Reshape
