import Reshape.Expr.Basic

/-!
# Expressions as texts

Expressions are written with the fewest parentheses: a part is put in parentheses only where it
binds less tightly than its place requires.
-/

namespace Reshape.Expr

/-- `leftPrecedence op` is what the left operand of `op` has to bind with. -/
def leftPrecedence (op : BinaryOp) : Nat :=
  if op.isRightAssociative then op.precedence + 1 else op.precedence

/-- `rightPrecedence op` is what the right operand of `op` has to bind with. -/
def rightPrecedence (op : BinaryOp) : Nat :=
  if op.isRightAssociative then op.precedence else op.precedence + 1

/-- `enclosed needed text` puts parentheses around `text` if they are needed. -/
def enclosed (needed : Bool) (text : String) : String :=
  if needed then "(" ++ text ++ ")" else text

mutual
/-- `renderAt least e` is `e` as a text in a place where it has to bind with `least`. -/
def renderAt (least : Nat) : Expr → String
  | .parameter p => p.displayName
  | .member target field => renderAt primaryPrecedence target ++ "." ++ field.name
  | .constant value _ => value.render
  | .binary op left right =>
    enclosed (op.precedence < least)
      (renderAt (leftPrecedence op) left ++ " " ++ op.symbol ++ " " ++
        renderAt (rightPrecedence op) right)
  | .unary op operand =>
    enclosed (op.precedence < least) (op.symbol ++ renderAt op.precedence operand)
  | .call method receiver arguments =>
    if method.isStatic then
      "string." ++ method.name ++ "(" ++ renderAt conditionalPrecedence receiver ++ ")"
    else
      renderAt primaryPrecedence receiver ++ "." ++ method.name ++ "(" ++
        renderArguments arguments ++ ")"
  | .conditional test ifTrue ifFalse =>
    enclosed (conditionalPrecedence < least)
      (renderAt (conditionalPrecedence + 1) test ++ " ? " ++
        renderAt conditionalPrecedence ifTrue ++ " : " ++ renderAt conditionalPrecedence ifFalse)
  | .lambda p body =>
    enclosed (conditionalPrecedence < least)
      (p.displayName ++ " => " ++ renderAt conditionalPrecedence body)
  | .init shape bindings =>
    "new " ++ shape ++ " \x7b " ++ renderBindings bindings ++ " \x7d"

/-- `renderArguments arguments` are the arguments with commas between. -/
def renderArguments : List Expr → String
  | [] => ""
  | [argument] => renderAt conditionalPrecedence argument
  | argument :: rest => renderAt conditionalPrecedence argument ++ ", " ++ renderArguments rest

/-- `renderBindings bindings` are the bindings with commas between. -/
def renderBindings : List (String × Expr) → String
  | [] => ""
  | [(name, value)] => name ++ " = " ++ renderAt conditionalPrecedence value
  | (name, value) :: rest =>
    name ++ " = " ++ renderAt conditionalPrecedence value ++ ", " ++ renderBindings rest
end

/-- `e.render` is `e` as a text. -/
def render (e : Expr) : String := renderAt conditionalPrecedence e

end Reshape.Expr
