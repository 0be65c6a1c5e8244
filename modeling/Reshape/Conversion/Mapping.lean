import Reshape.Conversion.Options

/-!
# Member maps from mapping lambdas

A lambda whose body initializes a record shows which fields go where. Every binding of a field of
the lambda's shape, accessed on a parameter, becomes an entry of the member map; other bindings are
skipped.
-/

namespace Reshape.MemberMap

/-- `notInitializer` says that the body of a mapping lambda is no object initializer. -/
def notInitializer : Error :=
  .configuration ErrorCode.notInitializer "Mapping must use an object-initializer."

/-- `ofBinding? source binding` is the entry that a binding stands for: from the field that is
accessed to the field that is bound. -/
def ofBinding? (source : Option String) (binding : String × Expr) : Option (String × String) :=
  match binding.2 with
  | .member (.parameter _) field =>
    if source = some field.declaringShape then some (field.name, binding.1) else none
  | _ => none

/-- `ofLambda parameter body` is the member map that a mapping lambda shows. -/
def ofLambda (parameter : Parameter) (body : Expr) : Except Error MemberMap :=
  match body with
  | .init _ bindings => .ok (ofPairs (bindings.filterMap (ofBinding? parameter.shape?)))
  | _ => .error notInitializer

end Reshape.MemberMap
