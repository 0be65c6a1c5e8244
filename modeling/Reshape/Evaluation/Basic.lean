import Reshape.Entries
import Reshape.Evaluation.Arithmetic
import Reshape.Evaluation.Method
import Reshape.Log
import Reshape.Predicate

/-!
# Evaluation of expressions

`evaluate` computes the value of an expression in an environment, which binds parameters to values,
the innermost first. Logical operators, coalescing and conditionals evaluate only the parts they
need. The body of a lambda is evaluated once for every item of the list that `Any` is called on,
and a lambda has no value of its own.
-/

namespace Reshape.Evaluation

/-- An `Environment` binds parameters to values, the innermost binding first. -/
abbrev Environment := List (Parameter × Value)

/-- `lookup environment p` is the value bound to `p`. -/
def lookup (environment : Environment) (p : Parameter) : Except EvalError Value :=
  match environment.find? fun binding => binding.1.denotes p with
  | some binding => .ok binding.2
  | none => .error (.undefinedParameter p.displayName)

/-- `fieldOf e name value` is the field `name` of a value; `e` is the access as written. -/
def fieldOf (e : Expr) (name : String) : Value → Except EvalError Value
  | .null => .error (.nullReference e.render)
  | .record shape fields =>
    match fields.lookup name with
    | some value => .ok value
    | none => .error (.invalidProperty name shape)
  | value => .error (.invalidProperty name value.kind)

/-- `operandOf op value` is the boolean that an operand of a logical operator has to be. -/
def operandOf (op : BinaryOp) : Value → Except EvalError Bool
  | .null => .error (.invalidOperand op.symbol "operand is null")
  | value => booleanOf value

/-- `unaryResult op value` is the result of a unary operator; a null stays null. -/
def unaryResult (op : UnaryOp) (value : Value) : Except EvalError Value :=
  match op, value with
  | _, .null => .ok .null
  | .not, value => (booleanOf value).map fun b => .boolean (!b)
  | .negate, value => negate value

/-- `wrongArity method count` says that a method does not take that many arguments. -/
def wrongArity (method : Method) (count : Nat) : EvalError :=
  .invalidOperand method.name (naturalText count ++ " argument(s)")

mutual
/-- `evaluate environment e` is the value of `e`. -/
def evaluate (environment : Environment) : Expr → Except EvalError Value
  | .parameter p => lookup environment p
  | .member target field => do
    fieldOf (.member target field) field.name (← evaluate environment target)
  | .constant value _ => .ok value
  | .binary op left right =>
    match op with
    | .and => do
      if ← operandOf op (← evaluate environment left) then
        return .boolean (← operandOf op (← evaluate environment right))
      else return .boolean false
    | .or => do
      if ← operandOf op (← evaluate environment left) then return .boolean true
      else return .boolean (← operandOf op (← evaluate environment right))
    | .coalesce => do
      match ← evaluate environment left with
      | .null => evaluate environment right
      | value => return value
    | op => do
      let left ← evaluate environment left
      let right ← evaluate environment right
      if op.isComparison then return .boolean (← comparison op left right)
      else arithmetic op left right
  | .unary op operand => do unaryResult op (← evaluate environment operand)
  | .call method receiver arguments =>
    if !method.accepts arguments.length then .error (wrongArity method arguments.length)
    else do
      let value ← evaluate environment receiver
      if method = .isNullOrEmpty then return .boolean (← isNullOrEmpty value)
      else if value.isNull then .error (.nullReference (Expr.call method receiver arguments).render)
      else
        match method, arguments with
        | .any, [] => return .boolean !(← itemsOf value).isEmpty
        | .any, .lambda p body :: _ =>
          return .boolean
            (← someItem (fun item => evaluate ((p, item) :: environment) body) (← itemsOf value))
        | .any, _ => do
          let _ ← itemsOf value
          .error (.invalidOperand method.name "argument must be a lambda")
        | method, argument :: _ =>
          return .boolean (← withArgument method value (← evaluate environment argument))
        | method, [] => return .string (textMethod method (← textOf value))
  | .conditional test ifTrue ifFalse => do
    if ← booleanOf (← evaluate environment test) then evaluate environment ifTrue
    else evaluate environment ifFalse
  | .lambda p body =>
    .error (.unsupported
      ("lambda " ++ (Expr.lambda p body).render ++ " has no value outside a method call"))
  | .init shape bindings => do return .record shape (← evaluateBindings environment [] bindings)

/-- `evaluateBindings environment fields bindings` sets the fields that the bindings give values
to. -/
def evaluateBindings (environment : Environment) (fields : List (String × Value)) :
    List (String × Expr) → Except EvalError (List (String × Value))
  | [] => .ok fields
  | (name, e) :: rest => do
    let value ← evaluate environment e
    evaluateBindings environment (Entries.put name value fields) rest
end

end Evaluation

namespace Predicate

/-- `predicate.admits input` fails for a record that is not of the predicate's shape. -/
def admits (predicate : Predicate) (input : Value) : Except EvalError Unit :=
  match predicate.shape?, input with
  | some expected, .record shape _ =>
    if shape = expected then .ok () else .error (.typeMismatch expected shape)
  | _, _ => .ok ()

/-- `predicate.result input` is the value of the body with the parameter bound to `input`. -/
def result (predicate : Predicate) (input : Value) : Except EvalError Value := do
  predicate.admits input
  Evaluation.evaluate [(predicate.parameter, input)] predicate.body

/-- `predicate.test input` says the predicate holds for `input`. -/
def test (predicate : Predicate) (input : Value) : Except EvalError Bool := do
  Evaluation.booleanOf (← predicate.result input)

/-- `predicate.traceEntry? input` is the log entry of a test: the value of the body, if it has one.
-/
def traceEntry? (predicate : Predicate) (input : Value) : Option LogEntry :=
  match predicate.result input with
  | .ok value =>
    some ⟨.trace, predicate.render ++ " on " ++ input.render ++ " = " ++ value.render⟩
  | .error _ => none

/-- `predicate.filter inputs` are the inputs that the predicate holds for. -/
def filter (predicate : Predicate) (inputs : List Value) : Except EvalError (List Value) :=
  inputs.filterM predicate.test

end Predicate

end Reshape
