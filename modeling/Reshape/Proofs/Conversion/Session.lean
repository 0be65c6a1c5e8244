import Mathlib.Logic.Function.Basic
import Reshape.Conversion.Converter
import Reshape.Proofs.Conversion.Reading
import Reshape.Proofs.Conversion.Run

/-!
# Sessions

In a session several registries share one cache. Shapes are registered, shapes are primed, single
annotations are looked up, and predicates are converted, in any order. An entry of the cache is
about a field of a shape that is registered, and a registered shape never changes; so what is
remembered stays true (`Session.Sound`), and the cache cannot be told from the registries:
`cache_transparent`.
-/

namespace Reshape

/-- A `Session` is registries under their scopes, with the cache that they share. -/
structure Session where
  registries : Nat → Registry
  cache : Cache

/-- A `Call` is something done in a session, for the registry of a scope. A conversion is told the
next identity for a parameter. -/
inductive Call where
  | register (scope : Nat) (definition : ShapeDefinition)
  | prime (scope : Nat) (shape : String)
  | lookup (scope : Nat) (field : FieldId)
  | convert (scope : Nat) (options : Options) (predicate : Predicate) (destination : String)
    (nextIdentity : Nat)

namespace Session

/-- `start policy ties` has registries without shapes, and a cache that has seen nothing. -/
def start (policy : CachePolicy) (ties : Ties) : Session := ⟨fun _ => .empty, .empty policy ties⟩

/-- `session.table scope` is the table of the annotations of the registry of a scope. -/
def table (session : Session) (scope : Nat) : AnnotationTable :=
  (session.registries scope).table scope

/-- `session.converter scope options nextIdentity` is a converter for the registry of a scope. -/
def converter (session : Session) (scope : Nat) (options : Options) (nextIdentity : Nat) :
    Converter :=
  ⟨options, session.registries scope, scope, session.cache, nextIdentity⟩

/-- `session.IsRegistered scope shape` says that the registry of a scope has a shape of a name. -/
def IsRegistered (session : Session) (scope : Nat) (shape : String) : Prop :=
  ((session.registries scope).shape? shape).isSome

/-- `session.after clock call` is the session after a call. A call that fails may still have changed
the cache. -/
def after (session : Session) (clock : Clock) : Call → Session
  | .register scope definition =>
    match (session.registries scope).register definition with
    | .ok registry =>
      { session with registries := Function.update session.registries scope registry }
    | .error _ => session
  | .prime scope shape =>
    { session with cache := ((session.converter scope .default 0).prime clock shape).2.1.cache }
  | .lookup scope field =>
    { session with cache := (session.cache.lookup clock (session.table scope) field).cache }
  | .convert scope options predicate destination nextIdentity =>
    { session with
      cache := ((session.converter scope options nextIdentity).convert clock predicate
        destination).2.1.cache }

/-- `session.Admits call` says that a call is allowed: an annotation is only looked up for a field
whose shape is registered. -/
def Admits (session : Session) : Call → Prop
  | .lookup scope field => session.IsRegistered scope field.shape
  | _ => True

/-- `Reached clock policy session` says that a session comes about by calls, one after the other,
whatever is chosen among entries of one time. -/
inductive Reached (clock : Clock) (policy : CachePolicy) : Session → Prop where
  | start (ties : Ties) : Reached clock policy (start policy ties)
  | call {session : Session} (call : Call) :
      Reached clock policy session → session.Admits call →
        Reached clock policy (session.after clock call)

/-- `session.Holds cache` says that every entry of a cache is about a field of a registered shape
and holds its annotation. -/
def Holds (session : Session) (cache : Cache) : Prop :=
  ∀ entry ∈ cache.entries, session.IsRegistered entry.key.scope entry.key.field.shape ∧
    entry.answer = (session.registries entry.key.scope).mapsTo? entry.key.field

/-- `session.Sound` says that the registries came about by registrations, and that the cache holds
annotations of registered shapes. -/
structure Sound (session : Session) : Prop where
  built : ∀ scope, (session.registries scope).Built
  holds : session.Holds session.cache

/-! ## Calls -/

variable {session : Session} {cache : Cache} {clock : Clock} {policy : CachePolicy} {scope : Nat}

/-- A cache that holds annotations of a session agrees with each of its tables. -/
theorem Holds.agreesWith (h : session.Holds cache) (scope : Nat) :
    cache.AgreesWith (session.table scope) := by
  intro entry hentry hscope
  have hanswer := (h entry hentry).2
  rwa [hscope] at hanswer

/-- Looking up a field of a registered shape keeps what a cache holds. -/
theorem Holds.lookup (h : session.Holds cache) {field : FieldId}
    (hfield : session.IsRegistered scope field.shape) :
    session.Holds (cache.lookup clock (session.table scope) field).cache := by
  intro entry hentry
  rcases Cache.known_of_mem_lookup hentry with ⟨old, hold, hkey, hanswer⟩ | ⟨hkey, hanswer⟩
  · rw [← hkey, ← hanswer]
    exact h old hold
  · rw [hkey, hanswer]
    exact ⟨hfield, rfl⟩

theorem Holds.lookupAll (h : session.Holds cache) {fields : List FieldId}
    (hfields : ∀ field ∈ fields, session.IsRegistered scope field.shape) :
    session.Holds (cache.lookupAll clock (session.table scope) fields).cache := by
  induction fields generalizing cache with
  | nil => exact h
  | cons field rest ih =>
      rw [Cache.lookupAll]
      exact ih (h.lookup (hfields field List.mem_cons_self)) fun other hother =>
        hfields other (List.mem_cons_of_mem _ hother)

/-- Priming with fields of registered shapes keeps what a cache holds. -/
theorem Holds.prime (h : session.Holds cache) {shape : String} {fields : List FieldId}
    (hfields : ∀ field ∈ fields, session.IsRegistered scope field.shape) :
    session.Holds (cache.prime clock (session.table scope) shape fields).cache := by
  rw [Cache.prime]
  dsimp only
  split
  · exact h
  · -- the marker of the shape is no entry
    show session.Holds (Cache.lookupAll _ clock (session.table scope) fields).cache
    refine Holds.lookupAll ?_ hfields
    exact h

/-- For fields of a registered shape, the cache is read like the registry. -/
theorem cached_faithfulOn (session : Session) (clock : Clock) (scope : Nat) {source : String}
    (hsource : session.IsRegistered scope source) :
    (AnnotationReader.cached clock (session.table scope)).FaithfulOn
      (fun field => field.shape = source) (session.registries scope).mapsTo? session.Holds where
  answer field _ _ hcache := (hcache.agreesWith scope).lookup_result field
  keeps field _ hfield hcache := hcache.lookup (by rw [hfield]; exact hsource)

/-- A conversion gives what it gives without the cache, and keeps what the cache holds. -/
theorem Sound.convert (h : session.Sound) (options : Options) (predicate : Predicate)
    (destination : String) (nextIdentity : Nat) :
    let outcome :=
      (session.converter scope options nextIdentity).convert clock predicate destination
    outcome.1 = (predicate.convertDirectly (session.registries scope) options destination
      nextIdentity).1 ∧ session.Holds outcome.2.1.cache := by
  have hmirrors := Conversion.convert_mirrors options predicate destination nextIdentity h.holds
    fun source hshapes =>
      session.cached_faithfulOn clock scope (Conversion.shapes_eq_ok hshapes).2.1
  exact ⟨hmirrors.1, hmirrors.2.store⟩

/-- A registration keeps what a cache holds. -/
theorem Holds.register {registry : Registry} {definition : ShapeDefinition}
    (h : session.Holds cache)
    (hregister : (session.registries scope).register definition = .ok registry) :
    Session.Holds { session with registries := Function.update session.registries scope registry }
      cache := by
  intro entry hentry
  obtain ⟨hregistered, hanswer⟩ := h entry hentry
  dsimp only [IsRegistered]
  by_cases hscope : entry.key.scope = scope
  · subst hscope
    rw [Function.update_self, Registry.mapsTo?_of_register hregister hregistered]
    refine ⟨?_, hanswer⟩
    rwa [Registry.shape?_of_register hregister hregistered]
  · rw [Function.update_of_ne hscope]
    exact ⟨hregistered, hanswer⟩

/-- A session is sound at the start. -/
theorem start_sound (policy : CachePolicy) (ties : Ties) : (start policy ties).Sound :=
  ⟨fun _ => .empty, fun _ hentry => nomatch hentry⟩

/-- Every call keeps a session sound. -/
theorem Sound.after (h : session.Sound) {call : Call} (hcall : session.Admits call) :
    (session.after clock call).Sound := by
  cases call with
  | register scope definition =>
      rw [Session.after]
      split
      · rename_i registry hregister
        refine ⟨fun other => ?_, h.holds.register hregister⟩
        by_cases hscope : other = scope
        · subst hscope
          dsimp only
          rw [Function.update_self]
          exact .register (h.built other) hregister
        · dsimp only
          rw [Function.update_of_ne hscope]
          exact h.built other
      · exact h
  | prime scope shape =>
      refine ⟨h.built, ?_⟩
      show session.Holds ((session.converter scope .default 0).prime clock shape).2.1.cache
      rw [Converter.prime]
      split
      · exact h.holds
      · rename_i found hfound
        refine h.holds.prime fun field hfield => ?_
        obtain ⟨descriptor, hdescriptor, rfl⟩ := List.mem_map.1 hfield
        have hname : found.name = shape := by simpa using List.find?_some hfound
        have hdeclares := (h.built scope).declaringShape_eq (List.mem_of_find?_eq_some hfound)
          hdescriptor
        show ((session.registries scope).shape? descriptor.declaringShape).isSome
        rw [hdeclares, hname, show (session.registries scope).shape? shape = some found from hfound]
        rfl
  | lookup scope field => exact ⟨h.built, h.holds.lookup hcall⟩
  | convert scope options predicate destination nextIdentity =>
      exact ⟨h.built, (h.convert options predicate destination nextIdentity).2⟩

/-- Every session that is reached is sound. -/
theorem Reached.sound (h : Reached clock policy session) : session.Sound := by
  induction h with
  | start ties => exact start_sound policy ties
  | call call _ hcall ih => exact ih.after hcall

end Session

/-! ## Transparency -/

/-- However a session was reached, its cache cannot be told from the registries: every entry holds
the annotation that the registry of its scope has, every lookup answers what the registry of its
scope answers, and every conversion has the result of one that reads annotations from the registry
itself. -/
theorem cache_transparent {clock : Clock} {policy : CachePolicy} {session : Session}
    (h : session.Reached clock policy) :
    (∀ entry ∈ session.cache.entries,
      entry.answer = (session.registries entry.key.scope).mapsTo? entry.key.field) ∧
    (∀ scope field, (session.cache.lookup clock (session.table scope) field).result =
      (session.registries scope).mapsTo? field) ∧
    ∀ scope options predicate destination nextIdentity,
      ((session.converter scope options nextIdentity).convert clock predicate destination).1 =
        (predicate.convertDirectly (session.registries scope) options destination nextIdentity).1 :=
  ⟨fun entry hentry => (h.sound.holds entry hentry).2,
    fun scope field => (h.sound.holds.agreesWith scope).lookup_result field,
    fun _ options predicate destination nextIdentity =>
      (h.sound.convert options predicate destination nextIdentity).1⟩

namespace Sample

/-- `bill` is another shape of the name of `order`, with another annotation. -/
def bill : ShapeDefinition := ⟨"Order", none, [⟨"Total", .integer, some "Sum"⟩]⟩

/-- `primed` is a session with two shapes of one name, of which the first was primed in a cache that
has room for one entry. -/
def primed : Session :=
  (((Session.start (.bounded ⟨1, 1, 0⟩) fun _ _ => 0).after id (.register 0 order)).after id
    (.register 1 bill)).after id (.prime 0 "Order")

end Sample

/-- The cache remembers the field that was looked up last, and answers for the other shape as its
registry does. -/
theorem sample_cache_transparent :
    Sample.primed.Reached id (.bounded ⟨1, 1, 0⟩) ∧
      Sample.primed.cache.entries.map (·.key) = [⟨0, "Order", "Parts"⟩] ∧
      (Sample.primed.cache.lookup id (Sample.primed.table 1) ⟨"Order", "Total"⟩).result =
        some "Sum" := by
  have hreached : Sample.primed.Reached id (.bounded ⟨1, 1, 0⟩) :=
    .call _ (.call _ (.call _ (.start _) trivial) trivial) trivial
  exact ⟨hreached, rfl, (cache_transparent hreached).2.1 1 ⟨"Order", "Total"⟩⟩

end Reshape
