import Mathlib.Logic.Relation
import Reshape.Conversion.Task

/-!
# Outcomes of actions

`perform action state` is the result of an action and the state that it leaves. `Yields` says that
an action succeeds, and the `yields` lemmas take a composed action apart.

`State.Extends` says how an action may change the state, whether it succeeds or fails: identities
are only used up, events are only added, and the store only changes by reading annotations. `Grows`
says so of an action, and is kept when actions are put together.
-/

namespace Reshape.Conversion

variable {σ α β : Type}

/-- `perform action state` is the result of an action that starts in `state`, and the state that it
leaves. -/
def perform (action : Action σ α) (state : State σ) : Except Error α × State σ :=
  action.run.run state

/-- A result that is given leaves the state as it is. -/
@[simp] theorem perform_pure (a : α) (state : State σ) :
    perform (pure a) state = (.ok a, state) := rfl

/-- An error leaves the state as it is. -/
@[simp] theorem perform_throw (error : Error) (state : State σ) :
    perform (throw error : Action σ α) state = (.error error, state) := rfl

/-- Noting an event adds it at the end. -/
@[simp] theorem perform_note (event : ConversionEvent) (state : State σ) :
    perform (note event) state = (.ok (), { state with events := state.events ++ [event] }) := rfl

/-- A fresh parameter takes the next identity. -/
@[simp] theorem perform_fresh (name : Option String) (type : FieldType) (state : State σ) :
    perform (fresh name type) state =
      (.ok ⟨state.nextIdentity, name, type⟩,
        { state with nextIdentity := state.nextIdentity + 1 }) := rfl

/-- Reading an annotation changes the store, and adds what the reader reports to the events. -/
@[simp] theorem perform_read (reader : AnnotationReader σ) (field : FieldId)
    (state : State σ) :
    perform (annotationOf reader field) state =
      (.ok (reader field state.store).1,
        { state with
          store := (reader field state.store).2.1
          events := state.events ++ (reader field state.store).2.2.map .cache }) := rfl

/-- Whoever takes no notice of the cache does not notice that an annotation is read. -/
theorem filterMap_read {γ : Type} {view : ConversionEvent → Option γ}
    (h : ∀ event, view (.cache event) = none) (reader : AnnotationReader σ) (field : FieldId)
    (state : State σ) :
    (perform (annotationOf reader field) state).2.events.filterMap view =
      state.events.filterMap view := by
  have hnone : ∀ events : List CacheEvent,
      (events.map ConversionEvent.cache).filterMap view = [] := by
    intro events
    rw [List.filterMap_map]
    exact List.filterMap_eq_nil_iff.2 fun event _ => h event
  rw [perform_read, List.filterMap_append, hnone, List.append_nil]

/-- A composed action goes on with the result of its first part, or stops with the first error. -/
theorem perform_bind (action : Action σ α) (next : α → Action σ β) (state : State σ) :
    perform (action >>= next) state =
      match perform action state with
      | (.ok a, middle) => perform (next a) middle
      | (.error error, middle) => (.error error, middle) := by
  show ExceptT.bindCont next (action state).1 (action state).2 =
    match action state with
    | (.ok a, middle) => perform (next a) middle
    | (.error error, middle) => (.error error, middle)
  rcases action state with ⟨_ | a, middle⟩ <;> rfl

/-- `Yields action start a finish` says that `action`, started in `start`, succeeds with `a` and
leaves `finish`. -/
def Yields (action : Action σ α) (start : State σ) (a : α) (finish : State σ) : Prop :=
  perform action start = (.ok a, finish)

/-- A result that is given is what the action succeeds with. -/
theorem yields_pure {a b : α} {start finish : State σ} :
    Yields (pure a) start b finish ↔ a = b ∧ start = finish := by
  rw [Yields, perform_pure, Prod.mk.injEq, Except.ok.injEq]

theorem yields_throw {error : Error} {a : α} {start finish : State σ} :
    ¬ Yields (throw error) start a finish := by
  simp [Yields]

/-- A composed action succeeds when both parts do, one after the other. -/
theorem yields_bind {action : Action σ α} {next : α → Action σ β} {start finish : State σ}
    {b : β} :
    Yields (action >>= next) start b finish ↔
      ∃ a middle, Yields action start a middle ∧ Yields (next a) middle b finish := by
  simp only [Yields, perform_bind]
  rcases perform action start with ⟨_ | a, middle⟩
  · simp
  · constructor
    · intro h
      exact ⟨a, middle, rfl, h⟩
    · rintro ⟨_, _, h, hnext⟩
      cases h
      exact hnext

/-- Noting an event always succeeds. -/
theorem yields_note {event : ConversionEvent} {u : Unit} {start finish : State σ} :
    Yields (note event) start u finish ↔
      { start with events := start.events ++ [event] } = finish := by
  simp [Yields]

/-- Taking a fresh parameter always succeeds. -/
theorem yields_fresh {name : Option String} {type : FieldType} {p : Parameter}
    {start finish : State σ} :
    Yields (fresh name type) start p finish ↔
      ⟨start.nextIdentity, name, type⟩ = p ∧
        { start with nextIdentity := start.nextIdentity + 1 } = finish := by
  rw [Yields, perform_fresh, Prod.mk.injEq, Except.ok.injEq]

/-- `Reads reader store store'` says that reading some annotation turns one store into the
other. -/
def Reads (reader : AnnotationReader σ) (store store' : σ) : Prop :=
  ∃ field, store' = (reader field store).2.1

/-- `later.Extends reader earlier` says that only identities were used up, events added and
annotations read since. -/
structure State.Extends (reader : AnnotationReader σ) (later earlier : State σ) : Prop where
  identity : earlier.nextIdentity ≤ later.nextIdentity
  events : earlier.events <+: later.events
  store : Relation.ReflTransGen (Reads reader) earlier.store later.store

namespace State.Extends

variable {reader : AnnotationReader σ}

theorem refl (state : State σ) : state.Extends reader state :=
  ⟨Nat.le_refl _, List.prefix_refl _, .refl⟩

theorem trans {first second third : State σ} (h : third.Extends reader second)
    (h' : second.Extends reader first) : third.Extends reader first :=
  ⟨Nat.le_trans h'.identity h.identity, h'.events.trans h.events, h'.store.trans h.store⟩

/-- What reading keeps of a store, the later state still has. -/
theorem keeps {holds : σ → Prop} {later earlier : State σ} (h : later.Extends reader earlier)
    (hread : ∀ field store, holds store → holds (reader field store).2.1)
    (hstart : holds earlier.store) : holds later.store := by
  have hreads := h.store
  generalize later.store = store at hreads ⊢
  induction hreads with
  | refl => exact hstart
  | tail _ hstep ih =>
      -- one more annotation was read at the end
      obtain ⟨field, rfl⟩ := hstep
      exact hread field _ ih

end State.Extends

/-- `Grows reader action` says that the state an action leaves extends the one it starts in. -/
def Grows (reader : AnnotationReader σ) (action : Action σ α) : Prop :=
  ∀ state, (perform action state).2.Extends reader state

variable {reader : AnnotationReader σ}

theorem grows_pure (a : α) : Grows reader (pure a : Action σ α) := fun state => .refl state

theorem grows_throw (error : Error) : Grows reader (throw error : Action σ α) :=
  fun state => .refl state

/-- Noting an event only adds to the events. -/
theorem grows_note (event : ConversionEvent) : Grows reader (note event) :=
  fun _ => ⟨Nat.le_refl _, List.prefix_append _ _, .refl⟩

/-- A fresh parameter only uses up an identity. -/
theorem grows_fresh (name : Option String) (type : FieldType) :
    Grows reader (fresh name type) :=
  fun _ => ⟨Nat.le_succ _, List.prefix_refl _, .refl⟩

/-- Reading an annotation adds to the events, and changes the store by that reading. -/
theorem grows_read (field : FieldId) : Grows reader <| annotationOf reader field :=
  fun _ => ⟨Nat.le_refl _, List.prefix_append _ _, .single ⟨field, rfl⟩⟩

/-- A composed action only extends the state when both parts do, whether it succeeds or fails. -/
theorem grows_bind {action : Action σ α} {next : α → Action σ β} (h : Grows reader action)
    (hnext : ∀ a, Grows reader (next a)) : Grows reader (action >>= next) := by
  intro state
  have hfirst := h state
  -- the next action starts where the first one succeeded; after an error there is none
  rw [perform_bind]
  rcases hresult : perform action state with ⟨_ | a, middle⟩
  · rwa [hresult] at hfirst
  · rw [hresult] at hfirst
    exact (hnext a middle).trans hfirst

/-- A success leaves a state that extends the one it started in. -/
theorem Grows.extends_of_yields {action : Action σ α} {start finish : State σ} {a : α}
    (hgrows : Grows reader action) (h : Yields action start a finish) :
    finish.Extends reader start := by
  have hfinish := hgrows start
  rwa [h] at hfinish

end Reshape.Conversion
