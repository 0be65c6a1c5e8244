import Reshape.Expr.Equality
import Reshape.Expr.Text

/-!
# Predicates

A predicate is an expression over one free parameter, usually of a shape, with a boolean as its
result.
-/

namespace Reshape

/-- A `Predicate` is a body over one parameter. -/
structure Predicate where
  parameter : Parameter
  body : Expr

namespace Predicate

/-- `predicate.shape?` is the shape that the predicate ranges over. -/
def shape? (predicate : Predicate) : Option String := predicate.parameter.shape?

/-- `predicate.isBoolean` says the body yields a boolean, or may. -/
def isBoolean (predicate : Predicate) : Bool := predicate.body.resultType.isBooleanResult

/-- `predicate.render` is the parameter, an arrow and the body. -/
def render (predicate : Predicate) : String :=
  predicate.parameter.displayName ++ " => " ++ predicate.body.render

/-- `predicate.toExpr` is the predicate as a lambda. -/
def toExpr (predicate : Predicate) : Expr := .lambda predicate.parameter predicate.body

/-- `ofExpr? e` is the predicate that a lambda is. -/
def ofExpr? : Expr → Option Predicate
  | .lambda parameter body => some ⟨parameter, body⟩
  | _ => none

/-- `a.same b` says the predicates have the same parameter, by name and type, and the same body. -/
def same (a b : Predicate) : Bool := a.parameter.same b.parameter && a.body.same b.body

end Predicate

end Reshape
