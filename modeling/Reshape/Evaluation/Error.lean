/-!
# Evaluation errors

Why an expression has no value.
-/

namespace Reshape

/-- An `EvalError` says why an expression has no value. -/
inductive EvalError where
  | typeMismatch (expected found : String)
  | invalidOperand (operator reason : String)
  | nullReference (expression : String)
  | argumentNull (parameter : String)
  | divisionByZero
  | overflow (operation : String)
  | undefinedParameter (name : String)
  | invalidProperty (property typeName : String)
  | unsupported (reason : String)
deriving DecidableEq

/-- `error.message` is the text of an error. -/
def EvalError.message : EvalError → String
  | .typeMismatch expected found => "Type mismatch: expected " ++ expected ++ ", found " ++ found
  | .invalidOperand operator reason => "Invalid operand for " ++ operator ++ ": " ++ reason
  | .nullReference expression => "Null reference: " ++ expression
  | .argumentNull parameter => "Value cannot be null. (Parameter '" ++ parameter ++ "')"
  | .divisionByZero => "Division by zero"
  | .overflow operation => "Arithmetic overflow in " ++ operation
  | .undefinedParameter name => "Undefined parameter: " ++ name
  | .invalidProperty property typeName =>
    "Invalid property '" ++ property ++ "' on type " ++ typeName
  | .unsupported reason => "Unsupported expression: " ++ reason

end Reshape
