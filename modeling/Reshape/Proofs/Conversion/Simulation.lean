import Reshape.Proofs.Conversion.Run

/-!
# Conversions side by side

Two conversions of one expression may differ in how they read annotations and in what becomes of an
access without counterpart, and in nothing else. A `Simulation` is a relation between actions that
is kept when actions are put together. Whatever relates the two places in which the conversions
differ (`Simulation.Links`) relates the conversions as a whole: `Simulation.counterpart` for
expressions, `Simulation.run` for predicates.
-/

namespace Reshape

/-- A `Substitution` is an access that became a default: the access, the name that was looked up for
it, and what it was looked up on. -/
structure Substitution where
  access : MemberAccess
  name : String
  searched : String

/-- `event.substitution?` is the substitution that an event reports. -/
def ConversionEvent.substitution? : ConversionEvent → Option Substitution
  | .substituted access name searched => some ⟨access, name, searched⟩
  | _ => none

namespace Conversion

variable {σ τ : Type}

/-- A `Simulation` relates actions that leave states of two kinds: whenever they do the same, other
than to fail for an unmapped member or to substitute a default, and whenever they are put together
from related actions. -/
structure Simulation (σ τ : Type) where
  Relates : {α : Type} → Action σ α → Action τ α → Prop
  result {α : Type} (a : α) : Relates (pure a) (pure a)
  failure {α : Type} (error : Error) :
    error.unmapped? = none → Relates (throw error : Action σ α) (throw error)
  event (event : ConversionEvent) :
    event.substitution? = none → Relates (note event) (note event)
  identity (name : Option String) (type : FieldType) : Relates (fresh name type) (fresh name type)
  sequence {α β : Type} {action : Action σ α} {action' : Action τ α} {next : α → Action σ β}
    {next' : α → Action τ β} :
    Relates action action' → (∀ a, Relates (next a) (next' a)) →
      Relates (action >>= next) (action' >>= next')

namespace Simulation

/-- `simulation.Links task task'` says that two tasks only differ in how they read annotations and
in what becomes of an access without counterpart, and that both are related. Only annotations of the
source shape are ever read. -/
structure Links (simulation : Simulation σ τ) (task : Task σ) (task' : Task τ) : Prop where
  registry : task'.registry = task.registry
  source : task'.source = task.source
  destination : task'.destination = task.destination
  root : task'.root = task.root
  memberMap : task'.options.memberMap = task.options.memberMap
  customMap : task'.options.customMap = task.options.customMap
  reading : ∀ field : FieldId, field.shape = task.source →
    simulation.Relates (annotationOf task.reader field) (annotationOf task'.reader field)
  missing : ∀ access name searched,
    simulation.Relates (task.missing access name searched) (task'.missing access name searched)

end Simulation

/-- A direct access is to a field that the source shape declares. -/
theorem source_of_isDirect {task : Task σ} {scopes : Scopes} {target : Expr}
    {field : FieldDescriptor} (h : task.isDirect scopes target field = true) :
    field.declaringShape = task.source := by
  unfold Task.isDirect at h
  split at h
  · exact beq_iff_eq.1 (Bool.and_eq_true_iff.1 h).2
  · cases h

namespace Simulation

variable {simulation : Simulation σ τ} {task : Task σ} {task' : Task τ}

/-! ## Steps -/

namespace Links

/-- Linked tasks replace parameters alike. -/
theorem replacement_eq (h : simulation.Links task task') (scopes : Scopes) (p : Parameter) :
    task'.replacement scopes p = task.replacement scopes p := by
  rw [Task.replacement, Task.replacement, h.source, h.root]

/-- Linked tasks take the same accesses for direct. -/
theorem isDirect_eq (h : simulation.Links task task') (scopes : Scopes) (target : Expr)
    (field : FieldDescriptor) :
    task'.isDirect scopes target field = task.isDirect scopes target field := by
  unfold Task.isDirect Task.isIntroduced
  rw [h.source, h.destination]

/-- The custom map gives both the same answer. -/
theorem consult (h : simulation.Links task task') (access : MemberAccess) :
    simulation.Relates (task.consult access) (task'.consult access) := by
  rw [Task.consult, Task.consult, h.customMap, h.root]
  split
  · exact simulation.result _
  · exact simulation.sequence (simulation.event _ rfl) fun _ => simulation.result _

theorem lambdaParameter (h : simulation.Links task task') (element : Option String)
    (p : Parameter) :
    simulation.Relates (task.lambdaParameter element p) (task'.lambdaParameter element p) := by
  rw [Task.lambdaParameter, Task.lambdaParameter, h.source, h.destination]
  split
  · dsimp only
    split
    · exact simulation.sequence (simulation.event _ rfl) fun _ => simulation.identity _ _
    · exact simulation.identity _ _
  · exact simulation.result _

/-- Both look an access up under one name. The annotation is read only where the member map has no
name. -/
theorem destinationName (h : simulation.Links task task') {field : FieldDescriptor} {direct : Bool}
    (hdirect : direct = true → field.declaringShape = task.source) :
    simulation.Relates (task.destinationName field direct)
      (task'.destinationName field direct) := by
  have hmapped : task'.options.mappedName? field.name = task.options.mappedName? field.name := by
    rw [Options.mappedName?, Options.mappedName?, h.memberMap]
  rw [Task.destinationName, Task.destinationName, hmapped]
  split
  · rename_i his
    split
    · exact simulation.result _
    · refine simulation.sequence (h.reading field.id (hdirect his)) fun answer => ?_
      split
      · split
        · exact simulation.result _
        · exact simulation.result _
      · exact simulation.result _
  · exact simulation.result _

/-- Linked tasks look names up alike. -/
theorem conclude (h : simulation.Links task task') (access : MemberAccess) (target : Expr)
    (name : String) (origin : NameOrigin) :
    simulation.Relates (task.conclude access target name origin)
      (task'.conclude access target name origin) := by
  rw [Task.conclude, Task.conclude, h.registry]
  split
  · exact simulation.sequence (simulation.event _ rfl) fun _ => simulation.result _
  · exact h.missing _ _ _

/-- Linked tasks resolve accesses alike. -/
theorem resolve (h : simulation.Links task task') (scopes : Scopes) (access : MemberAccess)
    (target : Expr) :
    simulation.Relates (task.resolve scopes access target)
      (task'.resolve scopes access target) := by
  rw [resolve_eq, resolve_eq, h.isDirect_eq]
  exact simulation.sequence (h.destinationName source_of_isDirect) fun name =>
    h.conclude access target name.1 name.2

end Links

/-! ## Expressions -/

/-- Arguments are converted alike when each of them is. -/
theorem argument_counterparts {scopes : Scopes} {element : Option String} {arguments : List Expr}
    (h : ∀ e ∈ arguments, simulation.Relates (counterpart task scopes element e)
      (counterpart task' scopes element e)) :
    simulation.Relates (argumentCounterparts task scopes element arguments)
      (argumentCounterparts task' scopes element arguments) := by
  induction arguments with
  | nil => exact simulation.result _
  | cons argument rest ih =>
      rw [argumentCounterparts, argumentCounterparts]
      refine simulation.sequence (h argument List.mem_cons_self) fun _ => ?_
      exact simulation.sequence (ih fun e he => h e (List.mem_cons_of_mem _ he)) fun _ =>
        simulation.result _

theorem binding_counterparts {scopes : Scopes} {bindings : List (String × Expr)}
    (h : ∀ binding ∈ bindings, simulation.Relates (counterpart task scopes none binding.2)
      (counterpart task' scopes none binding.2)) :
    simulation.Relates (bindingCounterparts task scopes bindings)
      (bindingCounterparts task' scopes bindings) := by
  induction bindings with
  | nil => exact simulation.result _
  | cons binding rest ih =>
      rw [bindingCounterparts, bindingCounterparts]
      refine simulation.sequence (h binding List.mem_cons_self) fun _ => ?_
      exact simulation.sequence (ih fun b hb => h b (List.mem_cons_of_mem _ hb)) fun _ =>
        simulation.result _

/-- Linked tasks convert every expression in related ways. -/
theorem counterpart (h : simulation.Links task task') (scopes : Scopes) (element : Option String)
    (e : Expr) :
    simulation.Relates (Conversion.counterpart task scopes element e)
      (Conversion.counterpart task' scopes element e) := by
  induction e generalizing scopes element with
  | parameter p =>
      rw [Conversion.counterpart, Conversion.counterpart, h.replacement_eq]
      exact simulation.result _
  | member target field ih =>
      rw [Conversion.counterpart, Conversion.counterpart]
      refine simulation.sequence (h.consult _) fun answer => ?_
      cases answer with
      | some answer => exact simulation.result _
      | none => exact simulation.sequence (ih scopes none) fun _ => h.resolve _ _ _
  | constant value type =>
      rw [Conversion.counterpart, Conversion.counterpart]
      exact simulation.result _
  | binary op left right ihleft ihright =>
      rw [Conversion.counterpart, Conversion.counterpart]
      refine simulation.sequence (ihleft scopes none) fun _ => ?_
      exact simulation.sequence (ihright scopes none) fun _ => simulation.result _
  | unary op operand ih =>
      rw [Conversion.counterpart, Conversion.counterpart]
      exact simulation.sequence (ih scopes none) fun _ => simulation.result _
  | call method receiver arguments ihreceiver iharguments =>
      rw [Conversion.counterpart, Conversion.counterpart]
      split
      · refine simulation.sequence (ihreceiver scopes none) fun _ => ?_
        refine simulation.sequence (argument_counterparts fun e he => ?_) fun _ =>
          simulation.result _
        exact iharguments e he scopes _
      · exact simulation.failure _ rfl
  | conditional test ifTrue ifFalse ihtest ihtrue ihfalse =>
      rw [Conversion.counterpart, Conversion.counterpart]
      refine simulation.sequence (ihtest scopes none) fun _ => ?_
      refine simulation.sequence (ihtrue scopes none) fun _ => ?_
      exact simulation.sequence (ihfalse scopes none) fun _ => simulation.result _
  | lambda p body ih =>
      rw [Conversion.counterpart, Conversion.counterpart]
      refine simulation.sequence (h.lambdaParameter _ _) fun _ => ?_
      exact simulation.sequence (ih _ none) fun _ => simulation.result _
  | init shape bindings ih =>
      rw [Conversion.counterpart, Conversion.counterpart]
      exact simulation.sequence (binding_counterparts fun b hb => ih b hb scopes none) fun _ =>
        simulation.result _

/-! ## Predicates -/

variable {registry : Registry} {options options' : Options} {reader : AnnotationReader σ}
  {reader' : AnnotationReader τ} {predicate : Predicate} {destination : String}

/-- An unknown shape is another error than an unmapped member. -/
theorem unmapped_of_shapes {error : Error}
    (h : shapes registry predicate destination = .error error) : error.unmapped? = none := by
  rw [shapes] at h
  split at h
  · cases h
    rfl
  · split at h
    · cases h
      rfl
    · split at h
      · cases h
        rfl
      · cases h

theorem liftM_ok_bind {α β : Type} (a : α) (next : α → Action σ β) :
    (liftM (Except.ok a : Except Error α) >>= next) = next a := rfl

/-- Two conversions of a predicate are related when their tasks are linked, whatever the destination
parameter. -/
theorem run (simulation : Simulation σ τ)
    (h : ∀ source root, shapes registry predicate destination = .ok source →
      simulation.Links ⟨registry, options, source, destination, root, reader⟩
        ⟨registry, options', source, destination, root, reader'⟩) :
    simulation.Relates (Conversion.run registry options reader predicate destination)
      (Conversion.run registry options' reader' predicate destination) := by
  rw [Conversion.run, Conversion.run]
  cases hshapes : shapes registry predicate destination with
  | error error => exact simulation.failure error (unmapped_of_shapes hshapes)
  | ok source =>
      rw [liftM_ok_bind, liftM_ok_bind]
      refine simulation.sequence (simulation.event _ rfl) fun _ => ?_
      refine simulation.sequence (simulation.identity _ _) fun root => ?_
      refine simulation.sequence (counterpart (h source root hshapes) _ _ _) fun body => ?_
      dsimp only
      split
      · exact simulation.sequence (simulation.failure _ rfl) fun _ =>
          simulation.sequence (simulation.event _ rfl) fun _ => simulation.result _
      · exact simulation.sequence (simulation.event _ rfl) fun _ => simulation.result _

end Simulation

end Conversion

end Reshape
