import Reshape.Conversion.Resolution

/-!
# Counterparts of expressions

The body of a predicate over a source shape has a counterpart over a destination shape. Parameter
references and field accesses are replaced; every other node keeps its form, its parts being
converted in the order they are evaluated. The custom map is asked about an access before its
target is converted, and its answer stands.
-/

namespace Reshape.Conversion

variable {σ : Type}

/-- `wrongArity method count` says that a method does not take that many arguments. -/
def wrongArity (method : Method) (count : Nat) : Error :=
  .traversal ErrorCode.invalidStructure
    ("Method " ++ method.name ++ " does not accept " ++ naturalText count ++
      " argument(s)")

mutual
/-- `counterpart task scopes element e` is the counterpart of `e`. `element` is the element shape
of the receiver when `e` is an argument of a call. -/
def counterpart (task : Task σ) (scopes : Scopes) (element : Option String) : Expr → Action σ Expr
  | .parameter p => return .parameter (task.replacement scopes p)
  | .member target field => do
    match ← task.consult ⟨target, field⟩ with
    | some answer => return answer
    | none =>
      let converted ← counterpart task scopes none target
      task.resolve scopes ⟨target, field⟩ converted
  | .constant value type => return .constant value type
  | .binary op left right => do
    let left ← counterpart task scopes none left
    let right ← counterpart task scopes none right
    return .binary op left right
  | .unary op operand => do
    let operand ← counterpart task scopes none operand
    return .unary op operand
  | .call method receiver arguments => do
    if method.accepts arguments.length then
      let receiver ← counterpart task scopes none receiver
      let element := receiver.resultType.elementShapeName?
      let arguments ← argumentCounterparts task scopes element arguments
      return .call method receiver arguments
    else throw (wrongArity method arguments.length)
  | .conditional test ifTrue ifFalse => do
    let test ← counterpart task scopes none test
    let ifTrue ← counterpart task scopes none ifTrue
    let ifFalse ← counterpart task scopes none ifFalse
    return .conditional test ifTrue ifFalse
  | .lambda p body => do
    let parameter ← task.lambdaParameter element p
    let body ← counterpart task ((p, parameter) :: scopes) none body
    return .lambda parameter body
  | .init shape bindings => do
    let bindings ← bindingCounterparts task scopes bindings
    return .init shape bindings

/-- `argumentCounterparts task scopes element arguments` are the counterparts of the arguments. -/
def argumentCounterparts (task : Task σ) (scopes : Scopes) (element : Option String) :
    List Expr → Action σ (List Expr)
  | [] => return []
  | argument :: rest => do
    let argument ← counterpart task scopes element argument
    let rest ← argumentCounterparts task scopes element rest
    return argument :: rest

/-- `bindingCounterparts task scopes bindings` are the bindings with the counterparts of what they
bind. -/
def bindingCounterparts (task : Task σ) (scopes : Scopes) :
    List (String × Expr) → Action σ (List (String × Expr))
  | [] => return []
  | (name, value) :: rest => do
    let value ← counterpart task scopes none value
    let rest ← bindingCounterparts task scopes rest
    return (name, value) :: rest
end

end Reshape.Conversion
