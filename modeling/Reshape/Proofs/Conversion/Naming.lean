import Reshape.Proofs.Annotation.Agreement
import Reshape.Proofs.Conversion.Run

/-!
# Names of accessed fields

Under which name an access is looked up, said without the scopes of the conversion. A `Binder` tells
what becomes of a parameter that is bound around an access, and `isDirectAt` reads off the binders
whether the access is direct. Only then do the member map and the annotation count
(`attemptedName`).

`Placed` ties binders to the scopes that a conversion keeps, and under it the conversion takes the
same accesses for direct: `Placed.isDirect_eq`.
-/

namespace Reshape.Conversion

/-! ## Names without scopes -/

/-- A `Binder` is a bound parameter with the shape of the new parameter that takes its place, if one
does. -/
structure Binder where
  parameter : Parameter
  newShape : Option String
deriving DecidableEq

/-- `isDirectAt source destination binders access` says that an access inside the binders, the
innermost first, is direct: it is made on a parameter, to a field that the source shape declares,
and the parameter gives way to one of the destination shape. -/
def isDirectAt (source destination : String) (binders : List Binder) (access : MemberAccess) :
    Bool :=
  match access.target with
  | .parameter p =>
    access.field.declaringShape == source &&
      match binders.find? fun binder => binder.parameter.denotes p with
      | some binder => binder.newShape == some destination
      | none => p.shape? == some source
  | _ => false

/-- `directName registry options field` is the name under which a field is looked up when the access
is direct: that of the member map, else an annotation that is not empty, else its own. -/
def directName (registry : Registry) (options : Options) (field : FieldDescriptor) :
    String × NameOrigin :=
  match options.mappedName? field.name with
  | some name => (name, .memberMap)
  | none =>
    match (registry.mapsTo? field.id).filter fun name => !name.isEmpty with
    | some name => (name, .annotated)
    | none => (field.name, .sameName)

/-- A field that the member map mentions is looked up under the name it gives. -/
theorem directName_of_mapped {registry : Registry} {options : Options} {field : FieldDescriptor}
    {name : String} (h : options.mappedName? field.name = some name) :
    directName registry options field = (name, .memberMap) := by
  rw [directName, h]

/-- A name only depends on which field it is for. -/
theorem directName_congr {registry : Registry} {options : Options} {field field' : FieldDescriptor}
    (h : field.id = field'.id) :
    directName registry options field = directName registry options field' := by
  have hname : field.name = field'.name := congrArg FieldId.name h
  rw [directName, directName, h, hname]

/-- `attemptedName registry options field direct` is the name under which a field is looked up. -/
def attemptedName (registry : Registry) (options : Options) (field : FieldDescriptor)
    (direct : Bool) : String × NameOrigin :=
  if direct then directName registry options field else (field.name, .sameName)

variable {σ : Type} {task : Task σ} {holds : σ → Prop}

/-- The name of a field is settled as `attemptedName` says. The annotation is read only for a direct
access to a field that the member map does not mention. -/
theorem perform_destinationName
    (hfaithful : task.reader.Faithful task.registry.mapsTo? holds) {state : State σ}
    (hholds : holds state.store) (field : FieldDescriptor) (direct : Bool) :
    ∃ asked,
      perform (task.destinationName field direct) state =
        (.ok (attemptedName task.registry task.options field direct), asked) ∧
      (¬ (direct ∧ task.options.mappedName? field.name = none) → asked = state) := by
  cases direct with
  | false => exact ⟨state, rfl, fun _ => rfl⟩
  | true =>
      cases hmapped : task.options.mappedName? field.name with
      | some name =>
          refine ⟨state, ?_, fun _ => rfl⟩
          simp [Task.destinationName, attemptedName, directName, hmapped]
      | none =>
          refine ⟨(perform (annotationOf task.reader field.id) state).2, ?_,
            fun hnot => (hnot ⟨rfl, rfl⟩).elim⟩
          rw [Task.destinationName, if_pos rfl]
          simp only [hmapped, perform_bind, perform_read, attemptedName, directName,
            hfaithful.answer field.id state.store hholds, if_true]
          cases task.registry.mapsTo? field.id with
          | none => rfl
          | some name =>
              cases hempty : name.isEmpty with
              | true => simp [Option.filter, hempty]
              | false => simp [Option.filter, hempty]

/-- A name that was settled is the `attemptedName`. -/
theorem yields_destinationName (hfaithful : task.reader.Faithful task.registry.mapsTo? holds)
    {start finish : State σ} (hholds : holds start.store) {field : FieldDescriptor} {direct : Bool}
    {name : String × NameOrigin}
    (h : Yields (task.destinationName field direct) start name finish) :
    name = attemptedName task.registry task.options field direct := by
  obtain ⟨asked, hperform, _⟩ := perform_destinationName hfaithful hholds field direct
  rw [Yields, hperform] at h
  cases h
  rfl

/-! ## Binders and scopes -/

/-- `task.binder element p` is the binder that a lambda over `p` is, `element` being the element
shape of the receiver when the lambda is an argument of a call. -/
def Task.binder (task : Task σ) (element : Option String) (p : Parameter) : Binder :=
  ⟨p, if p.shape? = some task.source then some (element.getD task.destination) else none⟩

/-- `binder.Places root scope` says that `scope` does to the parameter of `binder` what the binder
tells. New parameters did not come before the root, all others did. -/
def Binder.Places (root : Parameter) (binder : Binder) (scope : Parameter × Parameter) : Prop :=
  scope.1 = binder.parameter ∧ scope.1.identity < root.identity ∧
    match binder.newShape with
    | none => scope.2 = scope.1
    | some shape => scope.2.type = .shape shape ∧ root.identity ≤ scope.2.identity

/-- `Placed task binders scopes` says that the scopes do what the binders tell, one by one, and that
the root is in scope. -/
structure Placed (task : Task σ) (binders : List Binder) (scopes : Scopes) : Prop where
  places : List.Forall₂ (Binder.Places task.root) binders scopes
  root : ∃ scope ∈ scopes, scope.2 = task.root

variable {binders : List Binder} {scopes : Scopes}

/-- The innermost binder of a parameter goes with its innermost scope. -/
theorem find_scope {root : Parameter} (h : List.Forall₂ (Binder.Places root) binders scopes)
    (p : Parameter) :
    match binders.find? fun binder => binder.parameter.denotes p with
    | some binder =>
      ∃ scope, (scopes.find? fun scope => scope.1.denotes p) = some scope ∧
        binder.Places root scope
    | none => (scopes.find? fun scope => scope.1.denotes p) = none := by
  induction h with
  | nil => rfl
  | @cons binder scope binders scopes hplaces _ ih =>
      have hsame : scope.1.denotes p = binder.parameter.denotes p := by rw [hplaces.1]
      cases hdenotes : binder.parameter.denotes p with
      | true =>
          simp only [List.find?_cons, hdenotes]
          exact ⟨scope, by simp only [hsame, hdenotes], hplaces⟩
      | false =>
          simp only [List.find?_cons, hdenotes, hsame]
          exact ih

/-- A parameter that came before the root was not introduced by the conversion. -/
theorem Placed.isIntroduced_of_lt (h : Placed task binders scopes) {q : Parameter}
    (hq : q.identity < task.root.identity) : task.isIntroduced scopes q = false := by
  have hnone : (scopes.any fun scope => scope.2.denotes q && !scope.1.denotes scope.2) = false := by
    rw [List.any_eq_false]
    intro scope hscope
    obtain ⟨binder, _, _, _, hnew⟩ := exists_left_of_forall₂ h.places hscope
    split at hnew
    · simp [hnew]
    · have hne : scope.2.denotes q = false := by
        simp only [Parameter.denotes, beq_eq_false_iff_ne]
        omega
      simp [hne]
  rw [Task.isIntroduced, hnone, Bool.and_false]

/-- A replacement that did not come before the root was introduced by the conversion, and counts if
it has the destination shape. -/
theorem Placed.isIntroduced_of_le (h : Placed task binders scopes) {scope : Parameter × Parameter}
    (hscope : scope ∈ scopes) (hle : task.root.identity ≤ scope.2.identity) :
    task.isIntroduced scopes scope.2 = (scope.2.shape? == some task.destination) := by
  obtain ⟨binder, _, _, holder, _⟩ := exists_left_of_forall₂ h.places hscope
  have hne : scope.1.denotes scope.2 = false := by
    simp only [Parameter.denotes, beq_eq_false_iff_ne]
    omega
  have hany : (scopes.any fun s => s.2.denotes scope.2 && !s.1.denotes s.2) = true :=
    List.any_eq_true.2 ⟨scope, hscope, by simp [hne]⟩
  rw [Task.isIntroduced, hany, Bool.and_true, beq_eq_decide]

/-- Whether the replacement of a parameter was introduced with the destination shape, its innermost
binder tells. -/
theorem Placed.isIntroduced_replacement (h : Placed task binders scopes)
    (hroot : task.root.shape? = some task.destination) {p : Parameter}
    (hp : p.identity < task.root.identity) :
    task.isIntroduced scopes (task.replacement scopes p) =
      match binders.find? fun binder => binder.parameter.denotes p with
      | some binder => binder.newShape == some task.destination
      | none => p.shape? == some task.source := by
  have hfind := find_scope h.places p
  split at hfind
  · rename_i binder _
    obtain ⟨scope, hscope, hparameter, holder, hnew⟩ := hfind
    have hreplacement : task.replacement scopes p = scope.2 := by
      rw [Task.replacement, hscope]
    rw [hreplacement]
    split at hnew
    · rename_i hkept
      rw [h.isIntroduced_of_lt (by rw [hnew]; exact holder), hkept]
      rfl
    · rename_i shape hshape
      rw [h.isIntroduced_of_le (List.mem_of_find?_eq_some hscope) hnew.2, hshape,
        Parameter.shape?, hnew.1]
      rfl
  · rw [Task.replacement, hfind]
    dsimp only
    -- nothing binds `p`, so that it gives way to the root or to nothing
    by_cases hsource : p.shape? = some task.source
    · obtain ⟨scope, hscope, hscopeRoot⟩ := h.root
      have hintroduced := h.isIntroduced_of_le hscope (Nat.le_of_eq (by rw [hscopeRoot]))
      rw [hscopeRoot, hroot] at hintroduced
      rw [if_pos hsource, hintroduced, hsource]
      simp
    · rw [if_neg hsource, h.isIntroduced_of_lt hp]
      simp [hsource]

/-- Without a custom map only parameters are converted into parameters. -/
theorem eq_parameter_of_counterpart (hmap : task.options.customMap = none)
    {element : Option String} {e : Expr} {q : Parameter} {start finish : State σ}
    (h : Yields (counterpart task scopes element e) start (.parameter q) finish) :
    ∃ p, e = .parameter p := by
  cases e with
  | parameter p => exact ⟨p, rfl⟩
  | member target field =>
      obtain ⟨_, _, _, _, _, _, _, hconclude⟩ := counterpart_member hmap h
      rcases yields_conclude hconclude with ⟨_, _, _, _, he⟩ | ⟨_, _, he, _⟩
      · cases he
      · cases he
  | constant value type => cases (counterpart_constant h).1
  | binary op left right =>
      obtain ⟨_, _, _, _, _, he⟩ := counterpart_binary h
      cases he
  | unary op operand =>
      obtain ⟨_, _, he⟩ := counterpart_unary h
      cases he
  | call method receiver arguments =>
      obtain ⟨_, _, _, _, _, _, he⟩ := counterpart_call h
      cases he
  | conditional test ifTrue ifFalse =>
      obtain ⟨_, _, _, _, _, _, _, _, he⟩ := counterpart_conditional h
      cases he
  | lambda p body =>
      obtain ⟨_, _, _, _, _, he⟩ := counterpart_lambda h
      cases he
  | init shape bindings =>
      obtain ⟨_, _, he⟩ := counterpart_init h
      cases he

/-- Whether an access is direct is said by the binders around it. -/
theorem Placed.isDirect_eq (h : Placed task binders scopes)
    (hmap : task.options.customMap = none) (hroot : task.root.shape? = some task.destination)
    {target target' : Expr} (htarget : target.OlderThan task.root.identity)
    {start finish : State σ}
    (hyields : Yields (counterpart task scopes none target) start target' finish)
    (field : FieldDescriptor) :
    task.isDirect scopes target' field =
      isDirectAt task.source task.destination binders ⟨target, field⟩ := by
  -- only a parameter is converted into a parameter, so no other target counts on either side
  by_cases hparameter : ∃ p, target = .parameter p
  · obtain ⟨p, rfl⟩ := hparameter
    obtain ⟨rfl, rfl⟩ := counterpart_parameter hyields
    rw [Task.isDirect, h.isIntroduced_replacement hroot (htarget.own rfl), Bool.and_comm]
    rfl
  · have hother : isDirectAt task.source task.destination binders ⟨target, field⟩ = false := by
      rw [isDirectAt]
      split
      · rename_i p hp
        exact (hparameter ⟨p, hp⟩).elim
      · rfl
    rw [hother]
    unfold Task.isDirect
    split
    · exact (hparameter (eq_parameter_of_counterpart hmap hyields)).elim
    · rfl

end Reshape.Conversion
