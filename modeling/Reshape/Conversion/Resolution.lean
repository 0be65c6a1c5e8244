import Reshape.Conversion.Task

/-!
# Resolution of parameters and fields

A parameter of an enclosing lambda gives way to the one that took its place, and any other over the
source shape to the destination parameter.

An access is direct when its converted target is a parameter that this conversion introduced with
the destination shape, and its field is declared by the source shape. Only for a direct access are
the member map and the annotation consulted; any other keeps the name of its field. The name is
then looked up on the shape of the converted target.
-/

namespace Reshape.Conversion

variable {σ : Type}

namespace Task

/-- `task.replacement scopes p` is the parameter that takes the place of `p`: that of the innermost
scope of `p`, else the destination parameter for one of the source shape, else `p`. -/
def replacement (task : Task σ) (scopes : Scopes) (p : Parameter) : Parameter :=
  match scopes.find? fun scope => scope.1.denotes p with
  | some scope => scope.2
  | none => if p.shape? = some task.source then task.root else p

/-- `task.isIntroduced scopes p` says this conversion introduced `p`, and with the destination
shape. -/
def isIntroduced (task : Task σ) (scopes : Scopes) (p : Parameter) : Bool :=
  p.shape? = some task.destination &&
    scopes.any fun scope => scope.2.denotes p && !scope.1.denotes scope.2

/-- `task.isDirect scopes target field` says an access with that converted target is direct. -/
def isDirect (task : Task σ) (scopes : Scopes) (target : Expr) (field : FieldDescriptor) : Bool :=
  match target with
  | .parameter p => task.isIntroduced scopes p && field.declaringShape == task.source
  | _ => false

/-- `task.destinationName field direct` is the name under which a field is looked up, and where it
came from. An empty annotation does not count. -/
def destinationName (task : Task σ) (field : FieldDescriptor) (direct : Bool) :
    Action σ (String × NameOrigin) := do
  if direct then
    match task.options.mappedName? field.name with
    | some name => return (name, .memberMap)
    | none =>
      match ← annotationOf task.reader field.id with
      | some name => return if name.isEmpty then (field.name, .sameName) else (name, .annotated)
      | none => return (field.name, .sameName)
  else return (field.name, .sameName)

/-- `task.unmapped access name searched` says that an access has no counterpart. -/
def unmapped (task : Task σ) (access : MemberAccess) (name searched : String) : Error :=
  .unmappedMember {
    sourceMember := access.field.name
    sourceShape := task.registry.fullName access.field.declaringShape
    destinationMember := name
    destinationShape := task.registry.fullName searched
    expression := access.toExpr.render }

/-- `task.missing access name searched` is what becomes of an access without counterpart. -/
def missing (task : Task σ) (access : MemberAccess) (name searched : String) : Action σ Expr :=
  match task.options.errorHandling with
  | .returnDefault => do
    note (.substituted access name searched)
    return .constant (Value.ofType access.field.type) access.field.type
  | .throw => throw (task.unmapped access name searched)

/-- `task.resolve scopes access target` is the counterpart of an access, given its converted
target. -/
def resolve (task : Task σ) (scopes : Scopes) (access : MemberAccess) (target : Expr) :
    Action σ Expr := do
  let (name, origin) ←
    task.destinationName access.field (task.isDirect scopes target access.field)
  match target.shape?.bind fun shape => task.registry.member? shape name with
  | some field => do
    note (.resolved access.field.id field.id origin)
    return .member target field
  | none => task.missing access name (target.shape?.getD target.resultType.render)

/-- `task.consult access` is the answer of the custom map. -/
def consult (task : Task σ) (access : MemberAccess) : Action σ (Option Expr) :=
  match task.options.customMap with
  | none => return none
  | some customMap => do
    let answer := customMap access task.root
    note (.asked access task.root answer.isSome)
    return answer

/-- `task.lambdaParameter element p` is the parameter of a converted lambda: a new one in place of
one over the source shape, with the `element` shape if there is one and else the destination shape.
-/
def lambdaParameter (task : Task σ) (element : Option String) (p : Parameter) :
    Action σ Parameter := do
  if p.shape? = some task.source then
    let shape := element.getD task.destination
    if shape ≠ task.destination then note (.retyped p shape)
    fresh p.name (.shape shape)
  else return p

end Task

end Reshape.Conversion
