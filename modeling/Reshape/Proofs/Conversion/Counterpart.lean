import Reshape.Conversion.Counterpart
import Reshape.Proofs.Conversion.Action
import Reshape.Proofs.Elementwise
import Reshape.Proofs.Expr.Parts

/-!
# Successful steps of a conversion

One lemma for each form of expression says what its counterpart is made of, without a custom map.
`counterpart_grows` says how a conversion may change the state, also when it fails, and from it
`argument_counterparts_forall` and `binding_counterparts_forall` say that a list is converted
one by one, between the states before and after the list.
-/

namespace Reshape.Conversion

variable {σ : Type} {task : Task σ} {scopes : Scopes} {element : Option String}
  {start finish : State σ} {e' : Expr}

/-! ## Resolution -/

/-- `task.conclude access target name origin` is the counterpart of an access, given its converted
target and the name to look up. -/
def Task.conclude (task : Task σ) (access : MemberAccess) (target : Expr) (name : String)
    (origin : NameOrigin) : Action σ Expr :=
  match target.shape?.bind fun shape => task.registry.member? shape name with
  | some field => do
    note (.resolved access.field.id field.id origin)
    return .member target field
  | none => task.missing access name (target.shape?.getD target.resultType.render)

/-- An access is resolved by settling the name first and looking it up then. -/
theorem resolve_eq (task : Task σ) (scopes : Scopes) (access : MemberAccess) (target : Expr) :
    task.resolve scopes access target = (do
      let (name, origin) ←
        task.destinationName access.field (task.isDirect scopes target access.field)
      task.conclude access target name origin) := rfl

/-- The counterpart of an access is an access to the field found, or, where defaults are allowed,
the default value of the field's type. -/
theorem yields_conclude {access : MemberAccess} {target : Expr} {name : String}
    {origin : NameOrigin} (h : Yields (task.conclude access target name origin) start e' finish) :
    (∃ shape field, target.shape? = some shape ∧ task.registry.member? shape name = some field ∧
      e' = .member target field) ∨
    ((target.shape?.bind fun shape => task.registry.member? shape name) = none ∧
      task.options.errorHandling = .returnDefault ∧
      e' = .constant (Value.ofType access.field.type) access.field.type ∧
      ∃ searched, .substituted access name searched ∈ finish.events) := by
  rw [Task.conclude] at h
  split at h
  · rename_i field hfield
    obtain ⟨shape, hshape, hfield⟩ := Option.bind_eq_some_iff.1 hfield
    simp only [yields_bind, yields_note, yields_pure] at h
    obtain ⟨_, _, _, rfl, _⟩ := h
    exact Or.inl ⟨shape, field, hshape, hfield, rfl⟩
  · rename_i hnone
    rw [Task.missing] at h
    split at h
    · rename_i handling
      simp only [yields_bind, yields_note, yields_pure] at h
      obtain ⟨_, _, rfl, rfl, rfl⟩ := h
      exact Or.inr ⟨hnone, handling, rfl, _, List.mem_append_right _ (List.mem_singleton_self _)⟩
    · exact absurd h yields_throw

/-- A converted lambda has a new parameter when it was over the source shape, else its own. -/
theorem yields_lambdaParameter {p p' : Parameter}
    (h : Yields (task.lambdaParameter element p) start p' finish) :
    (p.shape? = some task.source ∧
      p' = ⟨start.nextIdentity, p.name, .shape (element.getD task.destination)⟩ ∧
      finish.nextIdentity = start.nextIdentity + 1) ∨
    (p.shape? ≠ some task.source ∧ p' = p ∧ finish = start) := by
  rw [Task.lambdaParameter] at h
  split at h
  · rename_i hsource
    refine Or.inl ⟨hsource, ?_⟩
    dsimp only at h
    split at h
    · simp only [yields_bind, yields_note, yields_fresh] at h
      obtain ⟨_, _, rfl, rfl, rfl⟩ := h
      exact ⟨rfl, rfl⟩
    · obtain ⟨rfl, rfl⟩ := yields_fresh.1 h
      exact ⟨rfl, rfl⟩
  · rename_i hother
    obtain ⟨rfl, rfl⟩ := yields_pure.1 h
    exact Or.inr ⟨hother, rfl, rfl⟩

/-! ## Forms of expressions -/

attribute [local simp] counterpart argumentCounterparts bindingCounterparts

/-- A reference is converted to one to the replacement of its parameter. -/
theorem counterpart_parameter {p : Parameter}
    (h : Yields (counterpart task scopes element (.parameter p)) start e' finish) :
    e' = .parameter (task.replacement scopes p) ∧ finish = start := by
  simp only [counterpart, yields_pure] at h
  exact ⟨h.1.symm, h.2.symm⟩

theorem counterpart_constant {value : Value} {type : FieldType}
    (h : Yields (counterpart task scopes element (.constant value type)) start e' finish) :
    e' = .constant value type ∧ finish = start := by
  simp only [counterpart, yields_pure] at h
  exact ⟨h.1.symm, h.2.symm⟩

/-- Without a custom map, the target of an access is converted first, and then the access
resolved. -/
theorem counterpart_member (hmap : task.options.customMap = none) {target : Expr}
    {field : FieldDescriptor}
    (h : Yields (counterpart task scopes element (.member target field)) start e' finish) :
    ∃ target' asked name origin named,
      Yields (counterpart task scopes none target) start target' asked ∧
      Yields (task.destinationName field (task.isDirect scopes target' field)) asked (name, origin)
        named ∧
      Yields (task.conclude ⟨target, field⟩ target' name origin) named e' finish := by
  simp only [counterpart, Task.consult, hmap, yields_bind, yields_pure, resolve_eq] at h
  obtain ⟨_, _, ⟨rfl, rfl⟩, h⟩ := h
  simp only [yields_bind] at h
  obtain ⟨target', asked, htarget, ⟨name, origin⟩, named, hname, h⟩ := h
  exact ⟨target', asked, name, origin, named, htarget, hname, h⟩

/-- The operands of a binary operation are converted from left to right. -/
theorem counterpart_binary {op : BinaryOp} {left right : Expr}
    (h : Yields (counterpart task scopes element (.binary op left right)) start e' finish) :
    ∃ left' middle right', Yields (counterpart task scopes none left) start left' middle ∧
      Yields (counterpart task scopes none right) middle right' finish ∧
      e' = .binary op left' right' := by
  simp only [counterpart, yields_bind, yields_pure] at h
  obtain ⟨left', middle, hleft, right', _, hright, rfl, rfl⟩ := h
  exact ⟨left', middle, right', hleft, hright, rfl⟩

/-- A unary operation is converted with its operand. -/
theorem counterpart_unary {op : UnaryOp} {operand : Expr}
    (h : Yields (counterpart task scopes element (.unary op operand)) start e' finish) :
    ∃ operand', Yields (counterpart task scopes none operand) start operand' finish ∧
      e' = .unary op operand' := by
  simp only [counterpart, yields_bind, yields_pure] at h
  obtain ⟨operand', _, hoperand, rfl, rfl⟩ := h
  exact ⟨operand', hoperand, rfl⟩

/-- The arguments of a call are converted with the element shape of the converted receiver. -/
theorem counterpart_call {method : Method} {receiver : Expr} {arguments : List Expr}
    (h : Yields (counterpart task scopes element (.call method receiver arguments)) start e'
      finish) :
    ∃ receiver' middle arguments', method.accepts arguments.length ∧
      Yields (counterpart task scopes none receiver) start receiver' middle ∧
      Yields (argumentCounterparts task scopes receiver'.resultType.elementShapeName? arguments)
        middle arguments' finish ∧
      e' = .call method receiver' arguments' := by
  rw [counterpart] at h
  split at h
  · rename_i haccepts
    simp only [yields_bind, yields_pure] at h
    obtain ⟨receiver', middle, hreceiver, arguments', _, harguments, rfl, rfl⟩ := h
    exact ⟨receiver', middle, arguments', haccepts, hreceiver, harguments, rfl⟩
  · exact absurd h yields_throw

/-- A conditional is converted test first, then both branches. -/
theorem counterpart_conditional {test ifTrue ifFalse : Expr}
    (h : Yields (counterpart task scopes element (.conditional test ifTrue ifFalse)) start e'
      finish) :
    ∃ test' tested ifTrue' middle ifFalse',
      Yields (counterpart task scopes none test) start test' tested ∧
      Yields (counterpart task scopes none ifTrue) tested ifTrue' middle ∧
      Yields (counterpart task scopes none ifFalse) middle ifFalse' finish ∧
      e' = .conditional test' ifTrue' ifFalse' := by
  simp only [counterpart, yields_bind, yields_pure] at h
  obtain ⟨test', tested, htest, ifTrue', middle, htrue, ifFalse', _, hfalse, rfl, rfl⟩ := h
  exact ⟨test', tested, ifTrue', middle, ifFalse', htest, htrue, hfalse, rfl⟩

/-- The body of a lambda is converted under its new parameter. -/
theorem counterpart_lambda {p : Parameter} {body : Expr}
    (h : Yields (counterpart task scopes element (.lambda p body)) start e' finish) :
    ∃ p' middle body', Yields (task.lambdaParameter element p) start p' middle ∧
      Yields (counterpart task ((p, p') :: scopes) none body) middle body' finish ∧
      e' = .lambda p' body' := by
  simp only [counterpart, yields_bind, yields_pure] at h
  obtain ⟨p', middle, hparameter, body', _, hbody, rfl, rfl⟩ := h
  exact ⟨p', middle, body', hparameter, hbody, rfl⟩

theorem counterpart_init {shape : String} {bindings : List (String × Expr)}
    (h : Yields (counterpart task scopes element (.init shape bindings)) start e' finish) :
    ∃ bindings', Yields (bindingCounterparts task scopes bindings) start bindings' finish ∧
      e' = .init shape bindings' := by
  simp only [counterpart, yields_bind, yields_pure] at h
  obtain ⟨bindings', _, hbindings, rfl, rfl⟩ := h
  exact ⟨bindings', hbindings, rfl⟩

/-! ## Changes of the state -/

/-- Settling a name changes the state at most by reading an annotation. -/
theorem destinationName_grows (task : Task σ) (field : FieldDescriptor) (direct : Bool) :
    Grows task.reader (task.destinationName field direct) := by
  rw [Task.destinationName]
  split
  · split
    · exact grows_pure _
    · refine grows_bind (grows_read _) fun answer => ?_
      split
      · split
        · exact grows_pure _
        · exact grows_pure _
      · exact grows_pure _
  · exact grows_pure _

/-- Looking a name up changes the state at most by an event. -/
theorem conclude_grows (task : Task σ) (access : MemberAccess) (target : Expr) (name : String)
    (origin : NameOrigin) : Grows task.reader (task.conclude access target name origin) := by
  rw [Task.conclude]
  split
  · exact grows_bind (grows_note _) fun _ => grows_pure _
  · rw [Task.missing]
    split
    · exact grows_bind (grows_note _) fun _ => grows_pure _
    · exact grows_throw _

theorem resolve_grows (task : Task σ) (scopes : Scopes) (access : MemberAccess) (target : Expr) :
    Grows task.reader (task.resolve scopes access target) := by
  rw [resolve_eq]
  exact grows_bind (destinationName_grows task _ _) fun _ => conclude_grows task _ _ _ _

/-- Asking the custom map changes the state at most by an event. -/
theorem consult_grows (task : Task σ) (access : MemberAccess) :
    Grows task.reader (task.consult access) := by
  rw [Task.consult]
  split
  · exact grows_pure _
  · exact grows_bind (grows_note _) fun _ => grows_pure _

/-- A new parameter changes the state by an identity and at most an event. -/
theorem lambdaParameter_grows (task : Task σ) (element : Option String) (p : Parameter) :
    Grows task.reader (task.lambdaParameter element p) := by
  rw [Task.lambdaParameter]
  split
  · dsimp only
    split
    · exact grows_bind (grows_note _) fun _ => grows_fresh _ _
    · exact grows_fresh _ _
  · exact grows_pure _

/-- Converting arguments only extends the state when converting each of them does. -/
theorem argument_counterparts_grow {arguments : List Expr}
    (h : ∀ e ∈ arguments, Grows task.reader (counterpart task scopes element e)) :
    Grows task.reader (argumentCounterparts task scopes element arguments) := by
  induction arguments with
  | nil => exact grows_pure _
  | cons argument rest ih =>
      rw [argumentCounterparts]
      refine grows_bind (h argument List.mem_cons_self) fun _ => ?_
      exact grows_bind (ih fun e he => h e (List.mem_cons_of_mem _ he)) fun _ => grows_pure _

theorem binding_counterparts_grow {bindings : List (String × Expr)}
    (h : ∀ binding ∈ bindings, Grows task.reader (counterpart task scopes none binding.2)) :
    Grows task.reader (bindingCounterparts task scopes bindings) := by
  induction bindings with
  | nil => exact grows_pure _
  | cons binding rest ih =>
      rw [bindingCounterparts]
      refine grows_bind (h binding List.mem_cons_self) fun _ => ?_
      exact grows_bind (ih fun b hb => h b (List.mem_cons_of_mem _ hb)) fun _ => grows_pure _

/-- A conversion, whether it succeeds or fails, leaves a state that extends the one it started
in. -/
theorem counterpart_grows (task : Task σ) (scopes : Scopes) (element : Option String) (e : Expr) :
    Grows task.reader (counterpart task scopes element e) := by
  -- a part is converted with other scopes and another element shape than the whole
  induction e generalizing scopes element with
  | parameter p => rw [counterpart]; exact grows_pure _
  | member target field ih =>
      rw [counterpart]
      refine grows_bind (consult_grows task _) fun answer => ?_
      cases answer with
      | some answer => exact grows_pure _
      | none => exact grows_bind (ih scopes none) fun _ => resolve_grows task _ _ _
  | constant value type => rw [counterpart]; exact grows_pure _
  | binary op left right ihleft ihright =>
      rw [counterpart]
      refine grows_bind (ihleft scopes none) fun _ => ?_
      exact grows_bind (ihright scopes none) fun _ => grows_pure _
  | unary op operand ih =>
      rw [counterpart]
      exact grows_bind (ih scopes none) fun _ => grows_pure _
  | call method receiver arguments ihreceiver iharguments =>
      rw [counterpart]
      split
      · refine grows_bind (ihreceiver scopes none) fun _ => ?_
        exact grows_bind (argument_counterparts_grow fun e he => iharguments e he scopes _)
          fun _ => grows_pure _
      · exact grows_throw _
  | conditional test ifTrue ifFalse ihtest ihtrue ihfalse =>
      rw [counterpart]
      refine grows_bind (ihtest scopes none) fun _ => ?_
      refine grows_bind (ihtrue scopes none) fun _ => ?_
      exact grows_bind (ihfalse scopes none) fun _ => grows_pure _
  | lambda p body ih =>
      rw [counterpart]
      refine grows_bind (lambdaParameter_grows task _ _) fun _ => ?_
      exact grows_bind (ih _ none) fun _ => grows_pure _
  | init shape bindings ih =>
      rw [counterpart]
      exact grows_bind (binding_counterparts_grow fun b hb => ih b hb scopes none)
        fun _ => grows_pure _

/-- A conversion that succeeds leaves a state that extends the one it started in. -/
theorem counterpart_extends {e : Expr}
    (h : Yields (counterpart task scopes element e) start e' finish) :
    finish.Extends task.reader start :=
  (counterpart_grows task scopes element e).extends_of_yields h

theorem argument_counterparts_extend {arguments arguments' : List Expr}
    (h : Yields (argumentCounterparts task scopes element arguments) start arguments' finish) :
    finish.Extends task.reader start :=
  (argument_counterparts_grow fun e _ =>
    counterpart_grows task scopes element e).extends_of_yields h

theorem binding_counterparts_extend {bindings bindings' : List (String × Expr)}
    (h : Yields (bindingCounterparts task scopes bindings) start bindings' finish) :
    finish.Extends task.reader start :=
  (binding_counterparts_grow fun b _ => counterpart_grows task scopes none b.2).extends_of_yields h

/-! ## Lists of expressions -/

/-- `ConvertsWithin task scopes element start finish e e'` says that `e'` is the counterpart of `e`
between two states of a conversion. -/
def ConvertsWithin (task : Task σ) (scopes : Scopes) (element : Option String)
    (start finish : State σ) (e e' : Expr) : Prop :=
  ∃ before after, before.Extends task.reader start ∧ finish.Extends task.reader after ∧
    Yields (counterpart task scopes element e) before e' after

/-- What is converted between two states is converted between any that lie further apart. -/
theorem ConvertsWithin.mono {first last : State σ} {e : Expr}
    (h : ConvertsWithin task scopes element start finish e e')
    (hfirst : start.Extends task.reader first) (hlast : last.Extends task.reader finish) :
    ConvertsWithin task scopes element first last e e' := by
  obtain ⟨before, after, hbefore, hafter, hyields⟩ := h
  exact ⟨before, after, hbefore.trans hfirst, hlast.trans hafter, hyields⟩

/-- Arguments are converted one by one. -/
theorem argument_counterparts_forall {arguments arguments' : List Expr}
    (h : Yields (argumentCounterparts task scopes element arguments) start arguments' finish) :
    List.Forall₂ (ConvertsWithin task scopes element start finish) arguments arguments' := by
  induction arguments generalizing start arguments' with
  | nil =>
      rw [argumentCounterparts, yields_pure] at h
      rw [← h.1]
      exact .nil
  | cons argument rest ih =>
      simp only [argumentCounterparts, yields_bind, yields_pure] at h
      obtain ⟨argument', middle, hargument, rest', _, hrest, rfl, rfl⟩ := h
      have hlast := argument_counterparts_extend hrest
      refine .cons ⟨start, middle, .refl start, hlast, hargument⟩ ?_
      exact (ih hrest).imp fun e e' he =>
        he.mono (counterpart_extends hargument) (.refl _)

/-- Bindings keep their names, and what they bind is converted one by one. -/
theorem binding_counterparts_forall {bindings bindings' : List (String × Expr)}
    (h : Yields (bindingCounterparts task scopes bindings) start bindings' finish) :
    List.Forall₂ (fun b b' => b.1 = b'.1 ∧
      ConvertsWithin task scopes none start finish b.2 b'.2) bindings bindings' := by
  induction bindings generalizing start bindings' with
  | nil =>
      rw [bindingCounterparts, yields_pure] at h
      rw [← h.1]
      exact .nil
  | cons binding rest ih =>
      simp only [bindingCounterparts, yields_bind, yields_pure] at h
      obtain ⟨value', middle, hvalue, rest', _, hrest, rfl, rfl⟩ := h
      have hlast := binding_counterparts_extend hrest
      refine .cons ⟨rfl, start, middle, .refl start, hlast, hvalue⟩ ?_
      exact (ih hrest).imp fun b b' hb =>
        ⟨hb.1, hb.2.mono (counterpart_extends hvalue) (.refl _)⟩

end Reshape.Conversion
