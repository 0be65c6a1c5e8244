import Reshape.Conversion.Event

/-!
# Conversion tasks

What stays fixed during a conversion (`Task`), what it changes (`State`), and computations that do
so (`Action`). Annotations are read through an `AnnotationReader`, so that one and the same
conversion can read them through a cache or from their table.
-/

namespace Reshape

/-- An `AnnotationReader` reads annotations, changing what it keeps in `σ`. -/
abbrev AnnotationReader (σ : Type) := FieldId → σ → Option String × σ × List CacheEvent

/-- `AnnotationReader.direct table` reads the table itself and keeps nothing. -/
def AnnotationReader.direct (table : AnnotationTable) : AnnotationReader Unit :=
  fun field _ => (table.mapsTo? field, (), [])

/-- `AnnotationReader.cached clock table` reads the table through a cache. -/
def AnnotationReader.cached (clock : Clock) (table : AnnotationTable) : AnnotationReader Cache :=
  fun field cache =>
    let outcome := cache.lookup clock table field
    (outcome.result, outcome.cache, outcome.events)

namespace Conversion

/-- A `Task` is what stays fixed during a conversion: the model, the options, the two shapes, and
the destination parameter. -/
structure Task (σ : Type) where
  registry : Registry
  options : Options
  source : String
  destination : String
  root : Parameter
  reader : AnnotationReader σ

/-- A `State` is what a conversion changes: the next identity for a parameter, what the annotation
reader keeps, and the events so far. -/
structure State (σ : Type) where
  nextIdentity : Nat
  store : σ
  events : List ConversionEvent

/-- An `Action` is a computation that may fail and leaves a state in either case. -/
abbrev Action (σ : Type) := ExceptT Error (StateM (State σ))

/-- `Scopes` are the parameters in scope with their replacements, the innermost first. -/
abbrev Scopes := List (Parameter × Parameter)

variable {σ : Type}

/-- `note event` adds an event. -/
def note (event : ConversionEvent) : Action σ Unit :=
  modify fun state => { state with events := state.events ++ [event] }

/-- `fresh name type` is a parameter unlike any before. -/
def fresh (name : Option String) (type : FieldType) : Action σ Parameter :=
  modifyGet fun state =>
    (⟨state.nextIdentity, name, type⟩, { state with nextIdentity := state.nextIdentity + 1 })

/-- `annotationOf reader field` is the annotation of a field. -/
def annotationOf (reader : AnnotationReader σ) (field : FieldId) : Action σ (Option String) :=
  modifyGet fun state =>
    let (answer, store, events) := reader field state.store
    (answer, { state with store, events := state.events ++ events.map .cache })

end Conversion

end Reshape
