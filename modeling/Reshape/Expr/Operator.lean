/-!
# Operators

Binary and unary operators with their symbols and how tightly they bind. Only null coalescing
groups to the right.
-/

namespace Reshape

/-- A `BinaryOp` is an operator between two operands. -/
inductive BinaryOp where
  | coalesce
  | or
  | and
  | equal
  | notEqual
  | less
  | lessOrEqual
  | greater
  | greaterOrEqual
  | add
  | subtract
  | multiply
  | divide
  | modulo
deriving DecidableEq

namespace BinaryOp

/-- `all` are the binary operators, the ones that bind loosest first. -/
def all : List BinaryOp :=
  [.coalesce, .or, .and, .equal, .notEqual, .less, .lessOrEqual, .greater, .greaterOrEqual, .add,
    .subtract, .multiply, .divide, .modulo]

/-- `op.name` is the name of the operator in documents. -/
def name : BinaryOp → String
  | .coalesce => "Coalesce"
  | .or => "Or"
  | .and => "And"
  | .equal => "Equal"
  | .notEqual => "NotEqual"
  | .less => "Less"
  | .lessOrEqual => "LessOrEqual"
  | .greater => "Greater"
  | .greaterOrEqual => "GreaterOrEqual"
  | .add => "Add"
  | .subtract => "Subtract"
  | .multiply => "Multiply"
  | .divide => "Divide"
  | .modulo => "Modulo"

/-- `ofName? name` is the operator of that name. -/
def ofName? (name : String) : Option BinaryOp := all.find? fun op => op.name == name

/-- `op.symbol` is the operator in texts. -/
def symbol : BinaryOp → String
  | .coalesce => "??"
  | .or => "||"
  | .and => "&&"
  | .equal => "=="
  | .notEqual => "!="
  | .less => "<"
  | .lessOrEqual => "<="
  | .greater => ">"
  | .greaterOrEqual => ">="
  | .add => "+"
  | .subtract => "-"
  | .multiply => "*"
  | .divide => "/"
  | .modulo => "%"

/-- `op.precedence` says how tightly the operator binds, from 1 to 7. -/
def precedence : BinaryOp → Nat
  | .coalesce => 1
  | .or => 2
  | .and => 3
  | .equal | .notEqual => 4
  | .less | .lessOrEqual | .greater | .greaterOrEqual => 5
  | .add | .subtract => 6
  | .multiply | .divide | .modulo => 7

/-- `op.isRightAssociative` says a row of the operator groups to the right. -/
def isRightAssociative : BinaryOp → Bool
  | .coalesce => true
  | _ => false

/-- `op.isComparison` says the operator compares its operands. -/
def isComparison : BinaryOp → Bool
  | .equal | .notEqual | .less | .lessOrEqual | .greater | .greaterOrEqual => true
  | _ => false

/-- `op.isLogical` says the operator combines booleans. -/
def isLogical : BinaryOp → Bool
  | .and | .or => true
  | _ => false

/-- `op.isArithmetic` says the operator calculates. -/
def isArithmetic : BinaryOp → Bool
  | .add | .subtract | .multiply | .divide | .modulo => true
  | _ => false

end BinaryOp

/-- A `UnaryOp` is an operator before one operand. -/
inductive UnaryOp where
  | not
  | negate
deriving DecidableEq

namespace UnaryOp

/-- `all` are the unary operators. -/
def all : List UnaryOp := [.not, .negate]

/-- `op.name` is the name of the operator in documents. -/
def name : UnaryOp → String
  | .not => "Not"
  | .negate => "Negate"

/-- `ofName? name` is the operator of that name. -/
def ofName? (name : String) : Option UnaryOp := all.find? fun op => op.name == name

/-- `op.symbol` is the operator in texts. -/
def symbol : UnaryOp → String
  | .not => "!"
  | .negate => "-"

/-- `op.precedence` is above that of every binary operator. -/
def precedence (_ : UnaryOp) : Nat := 8

end UnaryOp

/-- `primaryPrecedence` is that of field accesses, calls and constants. -/
def primaryPrecedence : Nat := 9

/-- `conditionalPrecedence` is that of conditionals and lambdas. -/
def conditionalPrecedence : Nat := 0

end Reshape
