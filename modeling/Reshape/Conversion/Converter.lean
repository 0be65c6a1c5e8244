import Reshape.Conversion.Basic

/-!
# Converters

A converter is set up once with options, a model and a cache, and used for many conversions. It
keeps the cache, and the next identity for a parameter, from one use to the next.
-/

namespace Reshape

/-- A `Converter` is a model with options, a cache and the scope under which the cache knows it. -/
structure Converter where
  options : Options
  registry : Registry
  scope : Nat
  cache : Cache
  nextIdentity : Nat

namespace Converter

/-- `ofParts options? registry? scope cache nextIdentity` is a converter. Options and model are
required. -/
def ofParts (options : Option Options) (registry : Option Registry) (scope : Nat) (cache : Cache)
    (nextIdentity : Nat) : Except Error Converter :=
  match options, registry with
  | none, _ => .error (Error.missing "options")
  | _, none => .error (Error.missing "model")
  | some options, some registry => .ok ⟨options, registry, scope, cache, nextIdentity⟩

/-- `converter.prime clock shape` looks up the annotations of a shape ahead of time. It tells
whether that was still to be done. -/
def prime (converter : Converter) (clock : Clock) (shape : String) :
    Except Error Bool × Converter × List ConversionEvent :=
  match converter.registry.shape? shape with
  | none => (.error (Conversion.unknownSource shape), converter, [])
  | some found =>
    let outcome := converter.cache.prime clock (converter.registry.table converter.scope) found.name
      (found.fields.map (·.id))
    (.ok outcome.result, { converter with cache := outcome.cache }, outcome.events.map .cache)

/-- `converter.convert clock predicate destination` is the counterpart of a predicate over the
destination shape. -/
def convert (converter : Converter) (clock : Clock) (predicate : Predicate) (destination : String) :
    Except Error Predicate × Converter × List ConversionEvent :=
  let (result, state) := predicate.convert converter.registry converter.options clock
    converter.scope destination converter.nextIdentity converter.cache
  (result, { converter with cache := state.store, nextIdentity := state.nextIdentity },
    state.events)

end Converter

end Reshape
