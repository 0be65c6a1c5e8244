import Reshape.Proofs.Conversion.Meaning
import Reshape.Proofs.Conversion.Reading

/-!
# Error handlings

A conversion that fails on an access without counterpart, and one that puts a default in its place,
do the same up to the first such access. There the one fails with the details of the substitution
that the other makes, and the other goes on (`Lockstep`). `error_handlings_agree` says what this
means for the results. Substitutions are made in the order of `Expr.accesses`: those in the target
of an access before the access, and those in the parts of an expression from left to right.
-/

namespace Reshape

namespace Expr

mutual
/-- `e.accesses` are the field accesses in `e`, in the order in which they are resolved. -/
def accesses : Expr → List MemberAccess
  | .parameter _ | .constant _ _ => []
  | .member target field => target.accesses ++ [⟨target, field⟩]
  | .binary _ left right => left.accesses ++ right.accesses
  | .unary _ operand => operand.accesses
  | .call _ receiver arguments => receiver.accesses ++ accessesOfArguments arguments
  | .conditional test ifTrue ifFalse => test.accesses ++ (ifTrue.accesses ++ ifFalse.accesses)
  | .lambda _ body => body.accesses
  | .init _ bindings => accessesOfBindings bindings

/-- `accessesOfArguments arguments` are the field accesses in arguments. -/
def accessesOfArguments : List Expr → List MemberAccess
  | [] => []
  | argument :: rest => argument.accesses ++ accessesOfArguments rest

/-- `accessesOfBindings bindings` are the field accesses in bound expressions. -/
def accessesOfBindings : List (String × Expr) → List MemberAccess
  | [] => []
  | (_, value) :: rest => value.accesses ++ accessesOfBindings rest
end

end Expr

/-- `substitution.details registry` are the details with which a conversion fails that does not
allow the substitution. -/
def Substitution.details (registry : Registry) (substitution : Substitution) : UnmappedMember where
  sourceMember := substitution.access.field.name
  sourceShape := registry.fullName substitution.access.field.declaringShape
  destinationMember := substitution.name
  destinationShape := registry.fullName substitution.searched
  expression := substitution.access.toExpr.render

namespace Conversion

variable {σ α β : Type}

/-- `state.substitutions` are the substitutions so far. -/
def State.substitutions (state : State σ) : List Substitution :=
  state.events.filterMap ConversionEvent.substitution?

/-- Events that are added add their substitutions. -/
theorem State.substitutions_add (state : State σ) (events : List ConversionEvent) :
    State.substitutions { state with events := state.events ++ events } =
      state.substitutions ++ events.filterMap ConversionEvent.substitution? :=
  List.filterMap_append

theorem substitutions_note {event : ConversionEvent} (h : event.substitution? = none)
    (state : State σ) : (perform (note event) state).2.substitutions = state.substitutions := by
  rw [perform_note, State.substitutions_add, List.filterMap_cons_none h, List.filterMap_nil,
    List.append_nil]

/-- Reading annotations substitutes nothing. -/
theorem substitutions_read (reader : AnnotationReader σ) (field : FieldId) (state : State σ) :
    (perform (annotationOf reader field) state).2.substitutions = state.substitutions :=
  filterMap_read (fun _ => rfl) reader field state

/-- Events of the cache are no substitutions. -/
theorem State.Mirrors.substitutions {holds : σ → Prop} {state : State σ} {plain : State Unit}
    (h : state.Mirrors holds plain) : state.substitutions = plain.substitutions := by
  have hfilter : ∀ events : List ConversionEvent,
      (events.filter fun event => !event.isCache).filterMap ConversionEvent.substitution? =
        events.filterMap ConversionEvent.substitution? := by
    intro events
    rw [List.filterMap_filter]
    congr 1
    funext event
    cases event <;> rfl
  rw [State.substitutions, State.substitutions, ← hfilter state.events, h.events, hfilter]

/-! ## The first access without counterpart -/

/-- `Lockstep registry start strict lenient` says that two outcomes of one start are the same,
nothing being substituted, or that the strict one fails with the details of what the lenient one
substitutes first. The lenient one never fails for an unmapped member. -/
structure Lockstep (registry : Registry) (start : State σ)
    (strict lenient : Except Error α × State σ) : Prop where
  mapped : ∀ details, lenient.1 ≠ .error (.unmappedMember details)
  together : (strict = lenient ∧ lenient.2.substitutions = start.substitutions) ∨
    ∃ first rest, strict.1 = .error (.unmappedMember (first.details registry)) ∧
      lenient.2.substitutions = start.substitutions ++ first :: rest

namespace Lockstep

variable {registry : Registry} {start middle : State σ} {strict lenient : Except Error α × State σ}

/-- One outcome that substitutes nothing is in step with itself. -/
theorem same {outcome : Except Error α × State σ}
    (hmapped : ∀ details, outcome.1 ≠ .error (.unmappedMember details))
    (hsame : outcome.2.substitutions = start.substitutions) :
    Lockstep registry start outcome outcome :=
  ⟨hmapped, .inl ⟨rfl, hsame⟩⟩

/-- The lenient one only adds to the substitutions. -/
theorem added (h : Lockstep registry start strict lenient) :
    ∃ more, lenient.2.substitutions = start.substitutions ++ more := by
  rcases h.together with ⟨_, hsame⟩ | ⟨first, rest, _, hfirst⟩
  · exact ⟨[], by rw [hsame, List.append_nil]⟩
  · exact ⟨first :: rest, hfirst⟩

/-- Outcomes in step from a state that has no further substitutions are in step from the start. -/
theorem earlier (h : Lockstep registry middle strict lenient)
    (hmiddle : middle.substitutions = start.substitutions) :
    Lockstep registry start strict lenient :=
  ⟨h.mapped, by rw [← hmiddle]; exact h.together⟩

/-- Once the strict one has failed, the lenient one may go on. -/
theorem after_failure {error : Error} {stopped : State σ} {first : Substitution}
    {rest : List Substitution} {next next' : Except Error β × State σ}
    (hfailure : error = .unmappedMember (first.details registry))
    (hfirst : middle.substitutions = start.substitutions ++ first :: rest)
    (hnext : Lockstep registry middle next next') :
    Lockstep registry start (.error error, stopped) next' := by
  obtain ⟨more, hmore⟩ := hnext.added
  refine ⟨hnext.mapped, .inr ⟨first, rest ++ more, by rw [hfailure], ?_⟩⟩
  rw [hmore, hfirst, List.append_assoc, List.cons_append]

/-- The strict one succeeds as the lenient one does when nothing is substituted. -/
theorem ok_iff (h : Lockstep registry start strict lenient) (hstart : start.substitutions = [])
    {a : α} : strict.1 = .ok a ↔ lenient.1 = .ok a ∧ lenient.2.substitutions = [] := by
  rcases h.together with ⟨rfl, hsame⟩ | ⟨first, rest, hfailure, hfirst⟩
  · rw [hsame, hstart, and_iff_left rfl]
  · rw [hfailure, hfirst, hstart]
    simp

/-- The strict one fails for an unmapped member with the details of what is substituted first. -/
theorem first_of_unmapped (h : Lockstep registry start strict lenient)
    (hstart : start.substitutions = []) {details : UnmappedMember}
    (hdetails : strict.1 = .error (.unmappedMember details)) :
    ∃ first rest, lenient.2.substitutions = first :: rest ∧ details = first.details registry := by
  rcases h.together with ⟨rfl, _⟩ | ⟨first, rest, hfailure, hfirst⟩
  · exact absurd hdetails (h.mapped details)
  · rw [hstart] at hfirst
    rw [hfailure, Except.error.injEq, Error.unmappedMember.injEq] at hdetails
    exact ⟨first, rest, hfirst, hdetails.symm⟩

/-- The strict one fails for any other reason as the lenient one does. -/
theorem error_of_error (h : Lockstep registry start strict lenient) {error : Error}
    (herror : strict.1 = .error error) (hother : error.unmapped? = none) :
    lenient.1 = .error error := by
  rcases h.together with ⟨rfl, _⟩ | ⟨first, rest, hfailure, _⟩
  · exact herror
  · rw [hfailure, Except.error.injEq] at herror
    subst herror
    cases hother

end Lockstep

/-- Performing one action and then another keeps outcomes in step. -/
theorem lockstep_bind {registry : Registry} {action action' : Action σ α}
    {next next' : α → Action σ β} {start : State σ}
    (hfirst : Lockstep registry start (perform action start) (perform action' start))
    (hnext : ∀ a state,
      Lockstep registry state (perform (next a) state) (perform (next' a) state)) :
    Lockstep registry start (perform (action >>= next) start)
      (perform (action' >>= next') start) := by
  rw [perform_bind, perform_bind]
  have hmapped := hfirst.mapped
  rcases hfirst.together with ⟨heq, hsame⟩ | ⟨first, rest, hfailure, hsubstitutions⟩
  · rw [heq]
    rcases hperform : perform action' start with ⟨error | a, middle⟩
    all_goals rw [hperform] at hmapped hsame
    · exact .same (fun details h => hmapped details (congrArg _ (Except.error.inj h))) hsame
    · exact (hnext a middle).earlier hsame
  · rcases hperform : perform action start with ⟨error | a, stopped⟩
    all_goals rw [hperform] at hfailure
    · rcases hperform' : perform action' start with ⟨error' | a, middle⟩
      all_goals rw [hperform'] at hmapped hsubstitutions
      · refine ⟨fun details h => hmapped details (congrArg _ (Except.error.inj h)), .inr ?_⟩
        exact ⟨first, rest, congrArg _ (Except.error.inj hfailure), hsubstitutions⟩
      · exact .after_failure (Except.error.inj hfailure) hsubstitutions (hnext a middle)
    · cases hfailure

/-- `lockstep registry` relates actions whose outcomes are in step from every state. -/
def lockstep (registry : Registry) : Simulation σ σ where
  Relates action action' :=
    ∀ state, Lockstep registry state (perform action state) (perform action' state)
  result _ := fun _ => .same (fun _ h => nomatch h) rfl
  failure error herror := by
    refine fun _ => .same (fun details h => ?_) rfl
    rw [Except.error.inj h] at herror
    cases herror
  event event hevent := fun state => .same (fun _ h => nomatch h) (substitutions_note hevent state)
  identity _ _ := fun _ => .same (fun _ h => nomatch h) rfl
  sequence hfirst hnext := fun state => lockstep_bind (hfirst state) hnext

variable {registry : Registry} {options : Options} {reader : AnnotationReader σ}
  {source destination : String} {root : Parameter} {predicate : Predicate}

/-- Tasks that only differ in their error handling are linked. -/
theorem lockstep_links :
    (lockstep registry).Links
      ⟨registry, { options with errorHandling := .throw }, source, destination, root, reader⟩
      ⟨registry, { options with errorHandling := .returnDefault }, source, destination, root,
        reader⟩ where
  registry := rfl
  source := rfl
  destination := rfl
  root := rfl
  memberMap := rfl
  customMap := rfl
  reading field _ := fun state => .same (fun _ h => nomatch h) (substitutions_read _ field state)
  missing access name searched := by
    refine fun state => ⟨fun _ h => (nomatch h), Or.inr ?_⟩
    exact ⟨⟨access, name, searched⟩, [], rfl, state.substitutions_add [.substituted ..]⟩

/-! ## The order of substitutions -/

/-- `Substitutes accesses action` says that what an action substitutes is among `accesses`, in their
order. -/
def Substitutes (accesses : List MemberAccess) (action : Action σ α) : Prop :=
  ∀ state, ∃ added, (perform action state).2.substitutions = state.substitutions ++ added ∧
    (added.map Substitution.access).Sublist accesses

/-- An action that adds no substitutions substitutes nothing. -/
theorem substitutes_none {action : Action σ α}
    (h : ∀ state, (perform action state).2.substitutions = state.substitutions) :
    Substitutes [] action :=
  fun state => ⟨[], by rw [h, List.append_nil], .slnil⟩

theorem substitutes_pure (a : α) : Substitutes [] (pure a : Action σ α) :=
  substitutes_none fun _ => rfl

theorem substitutes_note {event : ConversionEvent} (h : event.substitution? = none) :
    Substitutes [] (note event : Action σ Unit) :=
  substitutes_none (substitutions_note h)

/-- A composed action substitutes accesses of its first part, and then of the second. -/
theorem substitutes_bind {accesses accesses' : List MemberAccess} {action : Action σ α}
    {next : α → Action σ β} (h : Substitutes accesses action)
    (hnext : ∀ a, Substitutes accesses' (next a)) :
    Substitutes (accesses ++ accesses') (action >>= next) := by
  intro state
  obtain ⟨added, hadded, haccesses⟩ := h state
  rw [perform_bind]
  rcases hperform : perform action state with ⟨_ | a, middle⟩
  all_goals rw [hperform] at hadded
  · exact ⟨added, hadded, haccesses.trans (List.sublist_append_left _ _)⟩
  · obtain ⟨more, hmore, haccesses'⟩ := hnext a middle
    refine ⟨added ++ more, ?_, ?_⟩
    · rw [hmore, hadded, List.append_assoc]
    · rw [List.map_append]
      exact haccesses.append haccesses'

/-- What substitutes only some accesses substitutes only some of more. -/
theorem Substitutes.mono {accesses accesses' : List MemberAccess} {action : Action σ α}
    (h : Substitutes accesses action) (hmono : accesses.Sublist accesses') :
    Substitutes accesses' action := by
  intro state
  obtain ⟨added, hadded, haccesses⟩ := h state
  exact ⟨added, hadded, haccesses.trans hmono⟩

theorem substitutes_throw (error : Error) : Substitutes [] (throw error : Action σ α) :=
  substitutes_none fun _ => rfl

theorem substitutes_fresh (name : Option String) (type : FieldType) :
    Substitutes [] (fresh name type : Action σ Parameter) :=
  substitutes_none fun _ => rfl

/-- What follows an action only by giving its result a form substitutes nothing more. -/
theorem substitutes_map {accesses : List MemberAccess} {action : Action σ α} {form : α → β}
    (h : Substitutes accesses action) :
    Substitutes accesses (action >>= fun a => pure (form a)) := by
  simpa using substitutes_bind h fun a => substitutes_pure (form a)

variable {task : Task σ} {scopes : Scopes} {element : Option String}

theorem destinationName_substitutes (task : Task σ) (field : FieldDescriptor) (direct : Bool) :
    Substitutes [] (task.destinationName field direct) := by
  rw [Task.destinationName]
  split
  · split
    · exact substitutes_pure _
    · refine substitutes_bind (substitutes_none (substitutions_read _ _)) fun answer => ?_
      split
      · split
        · exact substitutes_pure _
        · exact substitutes_pure _
      · exact substitutes_pure _
  · exact substitutes_pure _

/-- Looking a name up substitutes at most the access that it is for. -/
theorem conclude_substitutes (task : Task σ) (access : MemberAccess) (target : Expr)
    (name : String) (origin : NameOrigin) :
    Substitutes [access] (task.conclude access target name origin) := by
  rw [Task.conclude]
  split
  · exact (substitutes_map (substitutes_note rfl)).mono (List.nil_sublist _)
  · rw [Task.missing]
    split
    · refine substitutes_map fun state => ?_
      exact ⟨_, state.substitutions_add [.substituted access name _], .refl _⟩
    · exact (substitutes_throw _).mono (List.nil_sublist _)

/-- Resolving an access substitutes at most that access. -/
theorem resolve_substitutes (task : Task σ) (scopes : Scopes) (access : MemberAccess)
    (target : Expr) : Substitutes [access] (task.resolve scopes access target) := by
  rw [resolve_eq]
  exact substitutes_bind (destinationName_substitutes task _ _) fun _ =>
    conclude_substitutes task _ _ _ _

theorem consult_substitutes (task : Task σ) (access : MemberAccess) :
    Substitutes [] (task.consult access) := by
  rw [Task.consult]
  split
  · exact substitutes_pure _
  · exact substitutes_map (substitutes_note rfl)

theorem lambdaParameter_substitutes (task : Task σ) (element : Option String) (p : Parameter) :
    Substitutes [] (task.lambdaParameter element p) := by
  rw [Task.lambdaParameter]
  split
  · dsimp only
    split
    · exact substitutes_bind (substitutes_note rfl) fun _ => substitutes_fresh _ _
    · exact substitutes_fresh _ _
  · exact substitutes_pure _

/-- Arguments substitute accesses one after the other. -/
theorem argument_counterparts_substitute {arguments : List Expr}
    (h : ∀ e ∈ arguments, Substitutes e.accesses (counterpart task scopes element e)) :
    Substitutes (Expr.accessesOfArguments arguments)
      (argumentCounterparts task scopes element arguments) := by
  induction arguments with
  | nil => exact substitutes_pure _
  | cons argument rest ih =>
      rw [argumentCounterparts, Expr.accessesOfArguments]
      refine substitutes_bind (h argument List.mem_cons_self) fun _ => substitutes_map ?_
      exact ih fun e he => h e (List.mem_cons_of_mem _ he)

theorem binding_counterparts_substitute {bindings : List (String × Expr)}
    (h : ∀ b ∈ bindings, Substitutes b.2.accesses (counterpart task scopes none b.2)) :
    Substitutes (Expr.accessesOfBindings bindings)
      (bindingCounterparts task scopes bindings) := by
  induction bindings with
  | nil => exact substitutes_pure _
  | cons binding rest ih =>
      rw [bindingCounterparts, Expr.accessesOfBindings]
      refine substitutes_bind (h binding List.mem_cons_self) fun _ => substitutes_map ?_
      exact ih fun b hb => h b (List.mem_cons_of_mem _ hb)

/-- What a conversion substitutes is among the accesses of the expression, in their order. -/
theorem counterpart_substitutes (task : Task σ) (scopes : Scopes) (element : Option String)
    (e : Expr) : Substitutes e.accesses (counterpart task scopes element e) := by
  induction e generalizing scopes element with
  | parameter p => rw [counterpart]; exact substitutes_pure _
  | member target field ih =>
      rw [counterpart, Expr.accesses, ← List.nil_append (target.accesses ++ _)]
      refine substitutes_bind (consult_substitutes task _) fun answer => ?_
      -- an answer of the custom map leaves the accesses in the target out
      cases answer with
      | some answer => exact (substitutes_pure _).mono (List.nil_sublist _)
      | none => exact substitutes_bind (ih scopes none) fun _ => resolve_substitutes task _ _ _
  | constant value type => rw [counterpart]; exact substitutes_pure _
  | binary op left right ihleft ihright =>
      rw [counterpart, Expr.accesses]
      exact substitutes_bind (ihleft scopes none) fun _ => substitutes_map (ihright scopes none)
  | unary op operand ih =>
      rw [counterpart, Expr.accesses]
      exact substitutes_map (ih scopes none)
  | call method receiver arguments ihreceiver iharguments =>
      rw [counterpart, Expr.accesses]
      split
      · refine substitutes_bind (ihreceiver scopes none) fun _ => substitutes_map ?_
        exact argument_counterparts_substitute fun e he => iharguments e he scopes _
      · exact (substitutes_throw _).mono (List.nil_sublist _)
  | conditional test ifTrue ifFalse ihtest ihtrue ihfalse =>
      rw [counterpart, Expr.accesses]
      refine substitutes_bind (ihtest scopes none) fun _ => ?_
      exact substitutes_bind (ihtrue scopes none) fun _ => substitutes_map (ihfalse scopes none)
  | lambda p body ih =>
      rw [counterpart, Expr.accesses]
      exact substitutes_bind (lambdaParameter_substitutes task _ _) fun _ =>
        substitutes_map (ih _ none)
  | init shape bindings ih =>
      rw [counterpart, Expr.accesses]
      exact substitutes_map (binding_counterparts_substitute fun b hb => ih b hb scopes none)

/-- What the conversion of a predicate substitutes is among the accesses of its body, in their
order. -/
theorem run_substitutes (registry : Registry) (options : Options) (reader : AnnotationReader σ)
    (predicate : Predicate) (destination : String) :
    Substitutes predicate.body.accesses
      (run registry options reader predicate destination) := by
  rw [run]
  refine substitutes_bind (substitutes_none fun state => ?_) fun source => ?_
  · rw [perform_liftM]
  refine substitutes_bind (substitutes_note rfl) fun _ => ?_
  refine substitutes_bind (substitutes_fresh _ _) fun root => ?_
  rw [← List.append_nil predicate.body.accesses]
  refine substitutes_bind (counterpart_substitutes _ _ _ _) fun body => ?_
  dsimp only
  split
  · exact substitutes_bind (substitutes_throw _) fun _ => substitutes_map (substitutes_note rfl)
  · exact substitutes_map (substitutes_note rfl)

/-! ## Both error handlings -/

/-- Failing is in step with substituting defaults, throughout the conversion of a predicate. -/
theorem convertDirectly_lockstep (registry : Registry) (options : Options) (predicate : Predicate)
    (destination : String) (nextIdentity : Nat) :
    Lockstep registry (⟨nextIdentity, (), []⟩ : State Unit)
      (predicate.convertDirectly registry { options with errorHandling := .throw } destination
        nextIdentity)
      (predicate.convertDirectly registry { options with errorHandling := .returnDefault }
        destination nextIdentity) :=
  (lockstep registry).run (fun _ _ _ => lockstep_links) ⟨nextIdentity, (), []⟩

/-- Conversions of a predicate under the two error handlings agree, through caches that agree with
the registry. One succeeds with what the other gives without a substitution; it fails for an
unmapped member with the details of what the other substitutes first, and for any other reason as
the other does. The other never fails for an unmapped member, and substitutes in the order of the
accesses of the predicate. -/
theorem error_handlings_agree (options : Options) (predicate : Predicate) (destination : String)
    (nextIdentity : Nat) (clock clock' : Clock) {scope scope' : Nat} {cache cache' : Cache}
    (hcache : cache.AgreesWith (registry.table scope))
    (hcache' : cache'.AgreesWith (registry.table scope')) :
    let strict := predicate.convert registry { options with errorHandling := .throw } clock scope
      destination nextIdentity cache
    let lenient := predicate.convert registry { options with errorHandling := .returnDefault }
      clock' scope' destination nextIdentity cache'
    (∀ converted, strict.1 = .ok converted ↔
      lenient.1 = .ok converted ∧ lenient.2.substitutions = []) ∧
    (∀ details, strict.1 = .error (.unmappedMember details) →
      ∃ first rest, lenient.2.substitutions = first :: rest ∧ details = first.details registry) ∧
    (∀ error, strict.1 = .error error → error.unmapped? = none → lenient.1 = .error error) ∧
    (∀ details, lenient.1 ≠ .error (.unmappedMember details)) ∧
    (lenient.2.substitutions.map Substitution.access).Sublist predicate.body.accesses := by
  intro strict lenient
  obtain ⟨hstrict, _⟩ := convert_mirrors_of_agrees { options with errorHandling := .throw }
    predicate destination nextIdentity clock hcache
  obtain ⟨hlenient, hmirrors⟩ := convert_mirrors_of_agrees
    { options with errorHandling := .returnDefault } predicate destination nextIdentity clock'
    hcache'
  obtain ⟨added, hadded, horder⟩ := run_substitutes registry
    { options with errorHandling := .returnDefault } (.direct (registry.table 0)) predicate
    destination ⟨nextIdentity, (), []⟩
  have hlock := convertDirectly_lockstep registry options predicate destination nextIdentity
  rw [show strict.1 = _ from hstrict, show lenient.1 = _ from hlenient,
    show lenient.2.substitutions = _ from hmirrors.substitutions]
  refine ⟨fun _ => hlock.ok_iff rfl, fun _ => hlock.first_of_unmapped rfl,
    fun _ => hlock.error_of_error, hlock.mapped, ?_⟩
  rwa [show (predicate.convertDirectly ..).2.substitutions = added from hadded]

/-- Orders have notes and views have not: the conversion to views fails at the note, through a cache
that keeps nothing for long, and with defaults the note is what becomes one first. -/
theorem sample_error_handlings :
    let details : UnmappedMember := ⟨"Note", "Order", "Note", "Shop.View", "o.Note"⟩
    (Sample.unnoted.convert Sample.registry ⟨none, none, .throw⟩ id 7 "View" 2
      (.empty (.bounded ⟨0, 1, 0⟩))).1 = .error (.unmappedMember details) ∧
    ∃ first rest, Sample.unnotedConversion.2.substitutions = first :: rest ∧
      details = first.details Sample.registry := by
  refine ⟨rfl, ?_⟩
  have hagree := error_handlings_agree .default Sample.unnoted "View" 2 id id
    (Cache.empty_agreesWith (.bounded ⟨0, 1, 0⟩) (Sample.registry.table 7))
    (Cache.empty_agreesWith .unbounded (Sample.registry.table 0))
  exact hagree.2.1 _ rfl

end Conversion

end Reshape
