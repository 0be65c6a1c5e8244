import Reshape.Error
import Reshape.Evaluation.Error
import Reshape.Value.Json

/-!
# Failures of commands

A failure is a chain of causes, from what the command was about to do to what stopped it. It is
shown by its first cause, and by the diagnostic of the first error in the chain.
-/

namespace Reshape.Command

/-- A `Cause` is one link of the chain. -/
inductive Cause where
  | step (text : String)
  | file (text : String)
  | malformedJson
  | error (problem : Error)
  | value (problem : ValueError)
  | evaluation (problem : EvalError)

namespace Cause

/-- `cause.message` is the text of a cause. -/
def message : Cause → String
  | .step text => text
  | .file text => text
  | .malformedJson => "malformed JSON"
  | .error problem => problem.message
  | .value problem => problem.message
  | .evaluation problem => problem.message

/-- `cause.error?` is the error that a cause is. -/
def error? : Cause → Option Error
  | .error problem => some problem
  | _ => none

end Cause

/-- A `Failure` is a chain of causes, the outermost first. -/
structure Failure where
  outermost : Cause
  causes : List Cause

namespace Failure

/-- `failure.chain` are all causes. -/
def chain (failure : Failure) : List Cause := failure.outermost :: failure.causes

/-- `failure.render palette` shows the failure. -/
def render (failure : Failure) (palette : Palette) : String :=
  palette.paint .redBold "Error:" ++ " " ++ failure.outermost.message ++
    match failure.chain.findSome? Cause.error? with
    | some error => "\n" ++ error.diagnostic.styled palette
    | none => ""

end Failure

/-- `during text cause` is the failure of a step. -/
def during (text : String) (cause : Cause) : Failure := ⟨.step text, [cause]⟩

/-- `attempt text toCause result` makes an error the failure of a step. -/
def attempt {ε α : Type} (text : String) (toCause : ε → Cause) : Except ε α → Except Failure α
  | .ok value => .ok value
  | .error error => .error (during text (toCause error))

end Reshape.Command
