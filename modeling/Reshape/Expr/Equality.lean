import Reshape.Expr.Basic
import Reshape.Value.Equality

/-!
# Sameness of expressions

Two expressions are the same when they have the same form and parts. Parameters are compared by name
and type and not by identity; values as `Value.same` compares them.
-/

namespace Reshape

/-- `p.same q` says `p` and `q` have one name and one type. -/
def Parameter.same (p q : Parameter) : Bool := p.name == q.name && p.type == q.type

namespace Expr

mutual
/-- `a.same b` says `a` and `b` are the same expression. -/
def same : Expr → Expr → Bool
  | .parameter p, .parameter q => p.same q
  | .member a field, .member b field' => a.same b && field == field'
  | .constant a type, .constant b type' => a.same b && type == type'
  | .binary op a b, .binary op' a' b' => op == op' && a.same a' && b.same b'
  | .unary op a, .unary op' b => op == op' && a.same b
  | .call method a as, .call method' b bs => method == method' && a.same b && sameArguments as bs
  | .conditional a b c, .conditional a' b' c' => a.same a' && b.same b' && c.same c'
  | .lambda p a, .lambda q b => p.same q && a.same b
  | .init shape as, .init shape' bs => shape == shape' && sameBindings as bs
  | _, _ => false

/-- `sameArguments as bs` says the lists have the same expressions in order. -/
def sameArguments : List Expr → List Expr → Bool
  | [], [] => true
  | a :: as, b :: bs => a.same b && sameArguments as bs
  | _, _ => false

/-- `sameBindings as bs` says the lists bind the same names to the same expressions in order. -/
def sameBindings : List (String × Expr) → List (String × Expr) → Bool
  | [], [] => true
  | (name, a) :: as, (name', b) :: bs => name == name' && a.same b && sameBindings as bs
  | _, _ => false
end

end Expr

end Reshape
