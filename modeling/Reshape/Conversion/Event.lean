import Reshape.Annotation.Cache
import Reshape.Conversion.Options
import Reshape.Predicate

/-!
# Events of a conversion

What happens in the course of a conversion, in order: which accesses the custom map was asked about,
which names were found and where they came from, which accesses became a default, which lambda
parameters changed their shape. Most events have a log entry.
-/

namespace Reshape

/-- A `NameOrigin` says where a destination name came from. -/
inductive NameOrigin where
  | memberMap
  | annotated
  | sameName
deriving DecidableEq

/-- `origin.render` is the origin in a log entry. -/
def NameOrigin.render : NameOrigin → String
  | .memberMap => "member map"
  | .annotated => "annotation"
  | .sameName => "same name"

/-- A `ConversionEvent` is something that happens in a conversion. -/
inductive ConversionEvent where
  | started (predicate : Predicate) (source destination : String)
  | asked (access : MemberAccess) (root : Parameter) (answered : Bool)
  | cache (event : CacheEvent)
  | resolved (source destination : FieldId) (origin : NameOrigin)
  | substituted (access : MemberAccess) (name searched : String)
  | retyped (parameter : Parameter) (shape : String)
  | finished (predicate : Predicate)

namespace ConversionEvent

/-- `event.log?` is the log entry of an event. Asking the custom map is logged when it answers. -/
def log? : ConversionEvent → Option LogEntry
  | .started predicate source destination =>
    some ⟨.debug, "converting " ++ predicate.render ++ " from " ++ source ++ " to " ++ destination⟩
  | .asked access _ answered =>
    if answered then some ⟨.trace, "custom map replaced " ++ access.toExpr.render⟩ else none
  | .cache event => some event.log
  | .resolved source destination origin =>
    some ⟨.trace, source.render ++ " -> " ++ destination.render ++ " (" ++ origin.render ++ ")"⟩
  | .substituted access name searched =>
    some ⟨.warn, "member '" ++ name ++ "' not found on '" ++ searched ++
      "', substituting default " ++ (Value.ofType access.field.type).render⟩
  | .retyped parameter shape =>
    some ⟨.trace, "lambda parameter " ++ parameter.displayName ++ " retyped to element shape " ++
      shape⟩
  | .finished predicate => some ⟨.debug, "converted to " ++ predicate.render⟩

end ConversionEvent

end Reshape
