import Reshape.Expr.Text

/-!
# Accesses by name

A field is accessed by its name on the shape that the static type of the target gives.
-/

namespace Reshape.Expr

/-- `notRecord name target` says that the target of an access has no shape. -/
def notRecord (name : String) (target : Expr) : Error :=
  .model ErrorCode.fieldNotFound
    ("Cannot access '" ++ name ++ "' on non-record expression " ++ target.render) none

/-- `access registry target name` is the access to the field `name` of `target`. -/
def access (registry : Registry) (target : Expr) (name : String) : Except Error Expr :=
  match target.shape? with
  | none => .error (notRecord name target)
  | some shape =>
    match registry.member? shape name with
    | some field => .ok (.member target field)
    | none => .error (Registry.fieldNotFound shape name)

end Reshape.Expr
