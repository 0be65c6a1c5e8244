import Reshape.Proofs.Annotation.Agreement
import Reshape.Proofs.Conversion.Simulation

/-!
# Conversions that read through a store

A conversion may read annotations through a store that remembers them, or from their table. As long
as the store answers like the table for the fields of the source shape, both conversions have one
result, and what they leave differs only in the store and in what it reports: `convert_mirrors`.
-/

namespace Reshape

variable {σ : Type}

/-- `reader.FaithfulOn fields mapsTo? holds` says that for some fields the reader answers as
`mapsTo?` does while the store has the property `holds`, and that reading keeps the property. -/
structure AnnotationReader.FaithfulOn (reader : AnnotationReader σ) (fields : FieldId → Prop)
    (mapsTo? : FieldId → Option String) (holds : σ → Prop) : Prop where
  answer : ∀ field store, fields field → holds store → (reader field store).1 = mapsTo? field
  keeps : ∀ field store, fields field → holds store → holds (reader field store).2.1

theorem AnnotationReader.Faithful.on {reader : AnnotationReader σ}
    {mapsTo? : FieldId → Option String} {holds : σ → Prop} (h : reader.Faithful mapsTo? holds)
    (fields : FieldId → Prop) : reader.FaithfulOn fields mapsTo? holds :=
  ⟨fun field store _ => h.answer field store, fun field store _ => h.keeps field store⟩

/-- `event.isCache` says an event is reported by the cache. -/
def ConversionEvent.isCache : ConversionEvent → Bool
  | .cache _ => true
  | _ => false

namespace Conversion

/-- `state.Mirrors holds plain` says that two states differ only in their stores, the one having the
property `holds`, and in the events of the cache. -/
structure State.Mirrors (holds : σ → Prop) (state : State σ) (plain : State Unit) : Prop where
  identity : state.nextIdentity = plain.nextIdentity
  store : holds state.store
  events : (state.events.filter fun event => !event.isCache) =
    plain.events.filter fun event => !event.isCache

/-- What a cache reports is no event of a conversion. -/
theorem filter_cache_events (events : List ConversionEvent) (reported : List CacheEvent) :
    ((events ++ reported.map ConversionEvent.cache).filter fun event => !event.isCache) =
      events.filter fun event => !event.isCache := by
  have hnone : ((reported.map ConversionEvent.cache).filter fun event => !event.isCache) = [] := by
    rw [List.filter_eq_nil_iff]
    intro event hevent
    obtain ⟨cached, _, rfl⟩ := List.mem_map.1 hevent
    simp [ConversionEvent.isCache]
  rw [List.filter_append, hnone, List.append_nil]

/-- An event of both conversions keeps their states alike. -/
theorem State.Mirrors.note {holds : σ → Prop} {state : State σ} {plain : State Unit}
    (h : state.Mirrors holds plain) (event : ConversionEvent) :
    State.Mirrors holds { state with events := state.events ++ [event] }
      { plain with events := plain.events ++ [event] } where
  identity := h.identity
  store := h.store
  events := by rw [List.filter_append, List.filter_append, h.events]

/-- `mirroring holds` relates actions that turn mirrored states into mirrored states with one
result. -/
def mirroring (holds : σ → Prop) : Simulation σ Unit where
  Relates action plainAction := ∀ state plain, state.Mirrors holds plain →
    (perform action state).1 = (perform plainAction plain).1 ∧
      (perform action state).2.Mirrors holds (perform plainAction plain).2
  result _ := fun _ _ h => ⟨rfl, h⟩
  failure _ _ := fun _ _ h => ⟨rfl, h⟩
  event event _ := fun _ _ h => ⟨rfl, h.note event⟩
  identity name type := by
    intro state plain h
    simp only [perform_fresh, h.identity]
    exact ⟨trivial, rfl, h.store, h.events⟩
  sequence {α β action action' next next'} hfirst hnext := by
    intro state plain h
    obtain ⟨hresult, hmirrors⟩ := hfirst state plain h
    rw [perform_bind, perform_bind]
    rcases hperform : perform action state with ⟨_ | a, middle⟩
    all_goals
      rcases hplain : perform action' plain with ⟨result, middle'⟩
      rw [hperform, hplain] at hresult hmirrors
      obtain rfl := hresult
    · exact ⟨rfl, hmirrors⟩
    · exact hnext a middle middle' hmirrors

variable {registry : Registry} {options : Options} {reader : AnnotationReader σ}
  {source destination : String} {root : Parameter} {holds : σ → Prop}

/-- Converting through a store that is faithful for the fields of the source shape is linked with
converting from the table. -/
theorem mirroring_links {scope : Nat}
    (h : reader.FaithfulOn (fun field => field.shape = source) registry.mapsTo? holds) :
    (mirroring holds).Links ⟨registry, options, source, destination, root, reader⟩
      ⟨registry, options, source, destination, root, .direct (registry.table scope)⟩ where
  registry := rfl
  source := rfl
  destination := rfl
  root := rfl
  memberMap := rfl
  customMap := rfl
  reading field hfield := by
    intro state plain hstates
    rw [perform_read, perform_read, h.answer field _ hfield hstates.store]
    refine ⟨rfl, hstates.identity, h.keeps field _ hfield hstates.store, ?_⟩
    rw [filter_cache_events, filter_cache_events, hstates.events]
  missing access name searched := by
    rw [Task.missing, Task.missing]
    cases options.errorHandling with
    | throw => exact fun state plain h => ⟨rfl, h⟩
    | returnDefault => exact fun state plain h => ⟨rfl, h.note _⟩

variable {clock : Clock} {scope : Nat} {cache : Cache}

/-- A conversion through a cache that is faithful for the fields of the source shape has the result
of a conversion from the table, and leaves a state that differs only in the cache. -/
theorem convert_mirrors (options : Options) (predicate : Predicate) (destination : String)
    (nextIdentity : Nat) {holds : Cache → Prop} (hcache : holds cache)
    (h : ∀ source, shapes registry predicate destination = .ok source →
      (AnnotationReader.cached clock (registry.table scope)).FaithfulOn
        (fun field => field.shape = source) registry.mapsTo? holds) :
    let cached := predicate.convert registry options clock scope destination nextIdentity cache
    let direct := predicate.convertDirectly registry options destination nextIdentity
    cached.1 = direct.1 ∧ cached.2.Mirrors holds direct.2 := by
  have hrelated : (mirroring holds).Relates
      (run registry options (.cached clock (registry.table scope)) predicate destination)
      (run registry options (.direct (registry.table 0)) predicate destination) :=
    (mirroring holds).run fun source _ hshapes => mirroring_links (h source hshapes)
  exact hrelated ⟨nextIdentity, cache, []⟩ ⟨nextIdentity, (), []⟩ ⟨rfl, hcache, rfl⟩

/-- A cache that agrees with the registry is faithful for all fields. -/
theorem convert_mirrors_of_agrees (options : Options) (predicate : Predicate)
    (destination : String) (nextIdentity : Nat) (clock : Clock)
    (hcache : cache.AgreesWith (registry.table scope)) :
    let cached := predicate.convert registry options clock scope destination nextIdentity cache
    let direct := predicate.convertDirectly registry options destination nextIdentity
    cached.1 = direct.1 ∧
      cached.2.Mirrors (fun cache => cache.AgreesWith (registry.table scope)) direct.2 :=
  convert_mirrors options predicate destination nextIdentity hcache fun _ _ =>
    (AnnotationReader.cached_faithful clock (registry.table scope)).on _

end Conversion

end Reshape
