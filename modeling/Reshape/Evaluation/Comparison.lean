import Reshape.Evaluation.Error
import Reshape.Expr.Operator
import Reshape.Value.Equality

/-!
# Comparison of values

Two nulls are equal, and a null is unequal to anything else. Numbers are compared as numbers,
integers and decimals mixed; lists item by item; all else within one kind. Only numbers and
instants have an order, and a null is in no order with anything.
-/

namespace Reshape.Evaluation

mutual
/-- `equal left right` says the values are equal, or fails when their kinds cannot be compared. -/
def equal : Value → Value → Except EvalError Bool
  | .null, .null => .ok true
  | .null, _ => .ok false
  | _, .null => .ok false
  | .integer a, .decimal b => .ok ((Decimal.ofInt64 a).sameNumber b)
  | .decimal a, .integer b => .ok (a.sameNumber (Decimal.ofInt64 b))
  | .list as, .list bs => if as.length = bs.length then equalItems as bs else .ok false
  | a, b =>
    if a.kind = b.kind then .ok (a.same b)
    else .error (.invalidOperand "==" ("cannot compare " ++ a.kind ++ " with " ++ b.kind))

/-- `equalItems as bs` says the items are equal in pairs; it stops at the first pair that is not. -/
def equalItems : List Value → List Value → Except EvalError Bool
  | a :: as, b :: bs => do
    if ← equal a b then equalItems as bs else return false
  | _, _ => .ok true
end

/-- `order? left right` is the order of two numbers or two instants. -/
def order? : Value → Value → Option Ordering
  | .integer a, .integer b => some (compare a.toInt b.toInt)
  | .decimal a, .decimal b => some (a.compare b)
  | .integer a, .decimal b => some ((Decimal.ofInt64 a).compare b)
  | .decimal a, .integer b => some (a.compare (Decimal.ofInt64 b))
  | .dateTime a, .dateTime b => some (a.compare b)
  | _, _ => none

/-- `holds? op` are the orders in which `op` holds, if it is an operator of order. -/
def holds? : BinaryOp → Option (Ordering → Bool)
  | .less => some Ordering.isLT
  | .lessOrEqual => some Ordering.isLE
  | .greater => some Ordering.isGT
  | .greaterOrEqual => some Ordering.isGE
  | _ => none

/-- `ordered op holds left right` compares by order; with a null no order holds. -/
def ordered (op : BinaryOp) (holds : Ordering → Bool) (left right : Value) :
    Except EvalError Bool :=
  if left.isNull || right.isNull then .ok false
  else
    match order? left right with
    | some order => .ok (holds order)
    | none =>
      .error (.invalidOperand op.symbol ("cannot order " ++ left.kind ++ " and " ++ right.kind))

/-- `comparison op left right` is the result of a comparison operator. -/
def comparison (op : BinaryOp) (left right : Value) : Except EvalError Bool :=
  match op with
  | .equal => equal left right
  | .notEqual => (equal left right).map not
  | op =>
    match holds? op with
    | some holds => ordered op holds left right
    | none => .error (.invalidOperand op.symbol "not a comparison")

end Reshape.Evaluation
