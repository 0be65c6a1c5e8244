import Reshape.Decimal.Remainder
import Reshape.Evaluation.Error
import Reshape.Expr.Operator
import Reshape.Value

/-!
# Arithmetic on values

Integers are calculated exactly and must fit 64 bits; an integer meeting a decimal becomes one. A
null operand gives null, but a sum with a text puts texts together, null being the empty one.
-/

namespace Reshape.Evaluation

/-- `concatenated value` is `value` as part of a text. -/
def concatenated : Value → String
  | .null => ""
  | .string text => text
  | value => value.render

/-- `checked? n` is the integer `n` if it fits 64 bits. -/
def checked? (n : Int) : Option Int64 :=
  if -(twoTo 63 : Int) ≤ n ∧ n < twoTo 63 then some (Int64.ofInt n) else none

/-- `notArithmetic op` says that `op` does not calculate. -/
def notArithmetic (op : BinaryOp) : EvalError := .invalidOperand op.symbol "not arithmetic"

/-- `fitted op result?` is an overflow of `op` when there is no result. -/
def fitted {α : Type} (op : BinaryOp) : Option α → Except EvalError α
  | some result => .ok result
  | none => .error (.overflow op.symbol)

/-- `divides op` says that `op` divides. -/
def divides : BinaryOp → Bool
  | .divide | .modulo => true
  | _ => false

/-- `integerResult op a b` calculates on integers. Quotients are cut toward zero. The remainder of
the least integer by `-1` does not fit, as the quotient does not. -/
def integerResult (op : BinaryOp) (a b : Int64) : Except EvalError Int64 :=
  if divides op && b == 0 then .error .divisionByZero
  else
    match op with
    | .add => fitted op (checked? (a.toInt + b.toInt))
    | .subtract => fitted op (checked? (a.toInt - b.toInt))
    | .multiply => fitted op (checked? (a.toInt * b.toInt))
    | .divide => fitted op (checked? (a.toInt.tdiv b.toInt))
    | .modulo =>
      fitted op ((checked? (a.toInt.tdiv b.toInt)).bind fun _ => checked? (a.toInt.tmod b.toInt))
    | op => .error (notArithmetic op)

/-- `decimalResult op a b` calculates on decimals. -/
def decimalResult (op : BinaryOp) (a b : Decimal) : Except EvalError Decimal :=
  if divides op && b.isZero then .error .divisionByZero
  else
    match op with
    | .add => fitted op (a.add? b)
    | .subtract => fitted op (a.sub? b)
    | .multiply => fitted op (a.mul? b)
    | .divide => fitted op (a.div? b)
    | .modulo => fitted op (a.rem? b)
    | op => .error (notArithmetic op)

/-- `isText value` says `value` is a text. -/
def isText : Value → Bool
  | .string _ => true
  | _ => false

/-- `arithmetic op left right` is the result of an arithmetic operator. -/
def arithmetic (op : BinaryOp) (left right : Value) : Except EvalError Value :=
  if op == .add && (isText left || isText right) then
    .ok (.string (concatenated left ++ concatenated right))
  else if left.isNull || right.isNull then .ok .null
  else
    match left, right with
    | .integer a, .integer b => (integerResult op a b).map .integer
    | .integer a, .decimal b => (decimalResult op (.ofInt64 a) b).map .decimal
    | .decimal a, .integer b => (decimalResult op a (.ofInt64 b)).map .decimal
    | .decimal a, .decimal b => (decimalResult op a b).map .decimal
    | a, b => .error (.invalidOperand op.symbol (a.kind ++ " and " ++ b.kind))

/-- `negate value` is `value` with the other sign. -/
def negate : Value → Except EvalError Value
  | .null => .ok .null
  | .integer n =>
    match checked? (-n.toInt) with
    | some result => .ok (.integer result)
    | none => .error (.overflow "negate")
  | .decimal d => .ok (.decimal d.neg)
  | value => .error (.typeMismatch "numeric" value.kind)

end Reshape.Evaluation
