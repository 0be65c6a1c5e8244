import Reshape.Conversion.Counterpart

/-!
# Conversion of predicates

`Conversion.run` checks the two shapes, converts the body over a new parameter of the destination
shape, and checks that a predicate that yielded a boolean still does. `Predicate.convert` runs it
with annotations read through a cache, `Predicate.convertDirectly` with annotations read from the
registry.
-/

namespace Reshape.Conversion

variable {σ : Type}

/-- `fallbackName` is the name of the destination parameter when that of the source has none. -/
def fallbackName : String := "p"

/-- `noShape predicate` says that the parameter of a predicate has no shape. -/
def noShape (predicate : Predicate) : Error :=
  .configuration ErrorCode.unknownSource
    ("Predicate parameter '" ++ predicate.parameter.displayName ++ "' is not of a shape type (" ++
      predicate.parameter.type.render ++ ")")

/-- `unknownSource shape` says that the source shape is not registered. -/
def unknownSource (shape : String) : Error :=
  .configuration ErrorCode.unknownSource ("Unknown source shape '" ++ shape ++ "'")

/-- `unknownDestination shape` says that the destination shape is not registered. -/
def unknownDestination (shape : String) : Error :=
  .configuration ErrorCode.unknownDestination ("Unknown destination shape '" ++ shape ++ "'")

/-- `noResult body` says that a body no longer yields a boolean. -/
def noResult (body : Expr) : Error :=
  .traversal ErrorCode.noResult
    ("The body of the expression could not be converted: " ++ body.render ++ " yields " ++
      body.resultType.render)

/-- `shapes registry predicate destination` is the source shape, once both shapes are known to be
registered. -/
def shapes (registry : Registry) (predicate : Predicate) (destination : String) :
    Except Error String :=
  match predicate.shape? with
  | none => .error (noShape predicate)
  | some source =>
    if (registry.shape? source).isNone then .error (unknownSource source)
    else if (registry.shape? destination).isNone then .error (unknownDestination destination)
    else .ok source

/-- `run registry options reader predicate destination` is the counterpart of `predicate` over the
destination shape. -/
def run (registry : Registry) (options : Options) (reader : AnnotationReader σ)
    (predicate : Predicate) (destination : String) : Action σ Predicate := do
  let source ← liftM (shapes registry predicate destination)
  note (.started predicate source destination)
  let root ← fresh (some (predicate.parameter.name.getD fallbackName)) (.shape destination)
  let task : Task σ := ⟨registry, options, source, destination, root, reader⟩
  let body ← counterpart task [(predicate.parameter, root)] none predicate.body
  let converted : Predicate := ⟨root, body⟩
  if predicate.isBoolean && !converted.isBoolean then throw (noResult body)
  note (.finished converted)
  return converted

end Conversion

namespace Predicate

open Conversion

/-- `predicate.convert registry options clock scope destination nextIdentity cache` is the
counterpart of a predicate over the destination shape, with the state that the conversion leaves.
Annotations of the registry, which has the given scope, are read through the cache. -/
def convert (predicate : Predicate) (registry : Registry) (options : Options) (clock : Clock)
    (scope : Nat) (destination : String) (nextIdentity : Nat) (cache : Cache) :
    Except Error Predicate × State Cache :=
  run registry options (.cached clock (registry.table scope)) predicate destination
    ⟨nextIdentity, cache, []⟩

/-- `predicate.convertDirectly registry options destination nextIdentity` is the same with
annotations read from the registry itself. -/
def convertDirectly (predicate : Predicate) (registry : Registry) (options : Options)
    (destination : String) (nextIdentity : Nat) : Except Error Predicate × State Unit :=
  run registry options (.direct (registry.table 0)) predicate destination ⟨nextIdentity, (), []⟩

end Predicate

end Reshape
