import Reshape.Proofs.Conversion.Run

/-!
# Form and binding of converted predicates

`converted_same_form` says what a conversion does to the tree of a predicate. Apart from accesses
that become a default, every node keeps its kind, its operator, method, constant or names, and the
number of its parts; and every parameter still denotes what it denoted, the innermost binder
counting first. A free parameter over the source shape becomes the destination parameter, any other
stays free.

That no reference is captured rests on how scopes are layered: a lambda keeps its parameter, or gets
one whose identity is above that of every replacement around it.
-/

namespace Reshape.Conversion

/-- A `Referent` is what a parameter denotes in its place: an enclosing lambda, counted from the
innermost, the parameter of the predicate, or neither. -/
inductive Referent where
  | lambda (depth : Nat)
  | root
  | free
deriving DecidableEq

/-- `referent.outward` is what a parameter denotes one lambda further inside. -/
def Referent.outward : Referent → Referent
  | .lambda depth => .lambda (depth + 1)
  | .root => .root
  | .free => .free

/-- `referent root lambdas p` is what `p` denotes in a predicate over `root`, inside lambdas over
the given parameters, the innermost first. -/
def referent (root : Parameter) : List Parameter → Parameter → Referent
  | [], p => if root.denotes p then .root else .free
  | binder :: lambdas, p =>
    if binder.denotes p then .lambda 0 else (referent root lambdas p).outward

/-- A `Rebinding` is a change of the parameter of a predicate over the source shape. Accesses may
become defaults if `handling` allows it. -/
structure Rebinding where
  source : String
  handling : ErrorHandling
  before : Parameter
  after : Parameter

/-- `rebinding.Corresponds lambdas p q` says that `q` denotes what `p` did, lambda for lambda. A
free parameter over the source shape turns into the new parameter, and any other stays itself and
free. -/
def Rebinding.Corresponds (rebinding : Rebinding) (lambdas : List (Parameter × Parameter))
    (p q : Parameter) : Prop :=
  match referent rebinding.before (lambdas.map Prod.fst) p with
  | .free =>
    if p.shape? = some rebinding.source then
      referent rebinding.after (lambdas.map Prod.snd) q = .root
    else q = p ∧ referent rebinding.after (lambdas.map Prod.snd) q = .free
  | bound => referent rebinding.after (lambdas.map Prod.snd) q = bound

/-- `SameForm rebinding lambdas e e'` says that `e'` is `e` with other parameters, lambdas being the
parameters of the lambdas around, before and after. Only an access may also become the default value
of its field's type. -/
inductive SameForm (rebinding : Rebinding) : List (Parameter × Parameter) → Expr → Expr → Prop where
  | parameter (lambdas p q) :
      rebinding.Corresponds lambdas p q → SameForm rebinding lambdas (.parameter p) (.parameter q)
  | member (lambdas target target' field field') :
      SameForm rebinding lambdas target target' →
      SameForm rebinding lambdas (.member target field) (.member target' field')
  | default (lambdas target field) :
      rebinding.handling = .returnDefault →
      SameForm rebinding lambdas (.member target field)
        (.constant (Value.ofType field.type) field.type)
  | constant (lambdas value type) :
      SameForm rebinding lambdas (.constant value type) (.constant value type)
  | binary (lambdas op left left' right right') :
      SameForm rebinding lambdas left left' → SameForm rebinding lambdas right right' →
      SameForm rebinding lambdas (.binary op left right) (.binary op left' right')
  | unary (lambdas op operand operand') :
      SameForm rebinding lambdas operand operand' →
      SameForm rebinding lambdas (.unary op operand) (.unary op operand')
  | call (lambdas method receiver receiver' arguments arguments') :
      SameForm rebinding lambdas receiver receiver' → arguments.length = arguments'.length →
      (∀ e e', (e, e') ∈ arguments.zip arguments' → SameForm rebinding lambdas e e') →
      SameForm rebinding lambdas (.call method receiver arguments)
        (.call method receiver' arguments')
  | conditional (lambdas test test' ifTrue ifTrue' ifFalse ifFalse') :
      SameForm rebinding lambdas test test' → SameForm rebinding lambdas ifTrue ifTrue' →
      SameForm rebinding lambdas ifFalse ifFalse' →
      SameForm rebinding lambdas (.conditional test ifTrue ifFalse)
        (.conditional test' ifTrue' ifFalse')
  | lambda (lambdas p q body body') :
      SameForm rebinding ((p, q) :: lambdas) body body' →
      SameForm rebinding lambdas (.lambda p body) (.lambda q body')
  | init (lambdas shape bindings bindings') :
      bindings.map Prod.fst = bindings'.map Prod.fst →
      (∀ b b', (b, b') ∈ bindings.zip bindings' → SameForm rebinding lambdas b.2 b'.2) →
      SameForm rebinding lambdas (.init shape bindings) (.init shape bindings')

/-- `Layered root lambdas next` says how the lambdas around an expression got their parameters,
`root` being the destination parameter and `next` the next identity. -/
inductive Layered (root : Parameter) : List (Parameter × Parameter) → Nat → Prop where
  | nil (next) : root.identity < next → Layered root [] next
  | kept (lambdas p next) :
      Layered root lambdas next → p.identity < root.identity →
      Layered root ((p, p) :: lambdas) next
  | fresh (lambdas p q bound next) :
      Layered root lambdas bound → p.identity < root.identity → bound ≤ q.identity →
      q.identity < next → Layered root ((p, q) :: lambdas) next

variable {σ : Type} {task : Task σ} {root : Parameter} {lambdas : List (Parameter × Parameter)}

theorem Layered.root_lt {next : Nat} (h : Layered root lambdas next) : root.identity < next := by
  induction h with
  | nil next h => exact h
  | kept _ _ _ _ _ ih => exact ih
  | fresh _ _ _ _ _ _ _ hbound hnext ih => exact Nat.lt_trans (Nat.lt_of_lt_of_le ih hbound) hnext

/-- Inside a lambda, an older parameter is layered with the one that takes its place. -/
theorem Layered.inside {next later : Nat} {element : Option String} {p q : Parameter}
    (h : Layered task.root lambdas next) (hp : p.identity < task.root.identity)
    (hq : Replaces task element next p q later) : Layered task.root ((p, q) :: lambdas) later := by
  cases hq with
  | kept => exact .kept lambdas p next h hp
  | renewed _ _ _ hidentity =>
      exact .fresh lambdas p q next (q.identity + 1) h hp hidentity (Nat.lt_succ_self _)

/-- Outside its innermost scope, a parameter is replaced as if that scope were not there. -/
theorem replacement_of_not_denotes {scope : Parameter × Parameter} {scopes : Scopes}
    {p : Parameter} (h : ¬ scope.1.denotes p) :
    task.replacement (scope :: scopes) p = task.replacement scopes p := by
  simp [Task.replacement, h]

theorem replacement_of_denotes {scope : Parameter × Parameter} {scopes : Scopes} {p : Parameter}
    (h : scope.1.denotes p) : task.replacement (scope :: scopes) p = scope.2 := by
  simp [Task.replacement, h]

variable {original p : Parameter}

/-- A parameter keeps its identity, or is replaced by one that did not come before the root. -/
theorem Layered.replacement_identity {next : Nat} (h : Layered task.root lambdas next)
    (original p : Parameter) :
    (task.replacement (lambdas ++ [(original, task.root)]) p).identity = p.identity ∨
      task.root.identity ≤ (task.replacement (lambdas ++ [(original, task.root)]) p).identity ∧
        (task.replacement (lambdas ++ [(original, task.root)]) p).identity < next := by
  induction h with
  | nil next hnext =>
      rw [List.nil_append]
      by_cases hdenotes : original.denotes p
      · rw [replacement_of_denotes hdenotes]
        exact Or.inr ⟨Nat.le_refl _, hnext⟩
      · rw [replacement_of_not_denotes hdenotes, Task.replacement, List.find?_nil]
        dsimp only
        split
        · exact Or.inr ⟨Nat.le_refl _, hnext⟩
        · exact Or.inl rfl
  | kept lambdas binder next _ hbinder ih =>
      rw [List.cons_append]
      by_cases hdenotes : binder.denotes p
      · rw [replacement_of_denotes hdenotes]
        exact Or.inl (Parameter.denotes_iff.1 hdenotes)
      · rw [replacement_of_not_denotes hdenotes]
        exact ih
  | fresh lambdas binder q bound next hlambdas _ hbound hnext ih =>
      rw [List.cons_append]
      by_cases hdenotes : binder.denotes p
      · rw [replacement_of_denotes hdenotes]
        exact Or.inr ⟨Nat.le_trans (Nat.le_of_lt hlambdas.root_lt) hbound, hnext⟩
      · rw [replacement_of_not_denotes hdenotes]
        exact ih.imp_right fun h => ⟨h.1, Nat.lt_trans (Nat.lt_of_lt_of_le h.2 hbound) hnext⟩

/-- `task.rebinding original` is what a task does to the parameters of a predicate over
`original`. -/
def Task.rebinding (task : Task σ) (original : Parameter) : Rebinding :=
  ⟨task.source, task.options.errorHandling, original, task.root⟩

/-- Inside a lambda that it does not denote, a parameter corresponds as outside, if its replacement
does not denote that of the lambda. -/
theorem corresponds_cons {binder q p' : Parameter} {rebinding : Rebinding}
    (h : rebinding.Corresponds lambdas p p') (hbefore : ¬ binder.denotes p)
    (hafter : ¬ q.denotes p') : rebinding.Corresponds ((binder, q) :: lambdas) p p' := by
  simp only [Rebinding.Corresponds, List.map_cons, referent, hbefore, hafter] at h ⊢
  cases hreferent : referent rebinding.before (lambdas.map Prod.fst) p with
  | lambda depth =>
      simp only [hreferent] at h
      simp [Referent.outward, h]
  | root =>
      simp only [hreferent] at h
      simp [Referent.outward, h]
  | free =>
      simp only [hreferent] at h
      by_cases hsource : p.shape? = some rebinding.source
      · rw [if_pos hsource] at h
        simp [Referent.outward, hsource, h]
      · rw [if_neg hsource] at h
        obtain ⟨rfl, hfree⟩ := h
        simp [Referent.outward, hsource, hfree]

/-- A lambda's parameter corresponds to its own replacement. -/
theorem corresponds_self {binder q p : Parameter} {rebinding : Rebinding} (h : binder.denotes p) :
    rebinding.Corresponds ((binder, q) :: lambdas) p q := by
  simp [Rebinding.Corresponds, referent, h]

/-- An older parameter denotes after its replacement what it denoted before. -/
theorem Layered.corresponds {next : Nat} (h : Layered task.root lambdas next)
    (hp : p.identity < task.root.identity) :
    (task.rebinding original).Corresponds lambdas p
      (task.replacement (lambdas ++ [(original, task.root)]) p) := by
  induction h with
  | nil next hnext =>
      rw [List.nil_append]
      by_cases hdenotes : original.denotes p
      · rw [replacement_of_denotes hdenotes]
        simp [Rebinding.Corresponds, Task.rebinding, referent, hdenotes]
      · have hroot : ¬ task.root.denotes p := by
          rw [Parameter.denotes_iff]
          exact (Nat.ne_of_lt hp).symm
        rw [replacement_of_not_denotes hdenotes, Task.replacement, List.find?_nil]
        by_cases hsource : p.shape? = some task.source
        · simp [Rebinding.Corresponds, Task.rebinding, referent, hdenotes, hsource]
        · simp [Rebinding.Corresponds, Task.rebinding, referent, hdenotes, hsource, hroot]
  | kept lambdas binder next hlambdas hbinder ih =>
      rw [List.cons_append]
      by_cases hdenotes : binder.denotes p
      · rw [replacement_of_denotes hdenotes]
        exact corresponds_self hdenotes
      · rw [replacement_of_not_denotes hdenotes]
        refine corresponds_cons ih hdenotes ?_
        -- what `p` becomes is not the parameter kept: it has the identity of `p` or a later one
        rw [Parameter.denotes_iff] at hdenotes ⊢
        rcases hlambdas.replacement_identity original p with heq | ⟨hroot, _⟩
        · rwa [heq]
        · exact Nat.ne_of_lt (Nat.lt_of_lt_of_le hbinder hroot)
  | fresh lambdas binder q bound next hlambdas hbinder hbound hnext ih =>
      rw [List.cons_append]
      by_cases hdenotes : binder.denotes p
      · rw [replacement_of_denotes hdenotes]
        exact corresponds_self hdenotes
      · rw [replacement_of_not_denotes hdenotes]
        refine corresponds_cons ih hdenotes ?_
        -- every replacement around came before the new parameter
        rw [Parameter.denotes_iff]
        have hroot := hlambdas.root_lt
        rcases hlambdas.replacement_identity original p with heq | ⟨_, hlt⟩
        · omega
        · omega

/-- A counterpart has the form of the expression, defaults apart. -/
theorem Converts.sameForm {events : List ConversionEvent} {scopes : Scopes}
    {element : Option String} {next : Nat} {e e' : Expr}
    (h : Converts task events scopes element next e e')
    (hscopes : scopes = lambdas ++ [(original, task.root)])
    (he : e.OlderThan task.root.identity) (hlayered : Layered task.root lambdas next) :
    SameForm (task.rebinding original) lambdas e e' := by
  induction h generalizing lambdas with
  | parameter p =>
      subst hscopes
      exact .parameter _ _ _ (hlayered.corresponds (he.own rfl))
  | member _ _ _ _ ih =>
      exact .member _ _ _ _ _ (ih hscopes (he.child (by simp [Expr.children])) hlayered)
  | default hhandling => exact .default _ _ _ hhandling
  | constant => exact .constant _ _ _
  | binary _ _ ihleft ihright =>
      exact .binary _ _ _ _ _ _ (ihleft hscopes (he.child (by simp [Expr.children])) hlayered)
        (ihright hscopes (he.child (by simp [Expr.children])) hlayered)
  | unary _ ih =>
      exact .unary _ _ _ _ (ih hscopes (he.child (by simp [Expr.children])) hlayered)
  | call _ hlength _ ihreceiver iharguments =>
      refine .call _ _ _ _ _ _ (ihreceiver hscopes (he.child (by simp [Expr.children])) hlayered)
        hlength fun e e' hmem => ?_
      have hargument := (List.of_mem_zip hmem).1
      exact iharguments e e' hmem hscopes (he.child (by simp [Expr.children, hargument])) hlayered
  | conditional _ _ _ ihtest ihtrue ihfalse =>
      exact .conditional _ _ _ _ _ _ _
        (ihtest hscopes (he.child (by simp [Expr.children])) hlayered)
        (ihtrue hscopes (he.child (by simp [Expr.children])) hlayered)
        (ihfalse hscopes (he.child (by simp [Expr.children])) hlayered)
  | lambda hq _ ih =>
      exact .lambda _ _ _ _ _ (ih (by rw [hscopes, List.cons_append])
        (he.child (by simp [Expr.children])) (hlayered.inside (he.own rfl) hq))
  | init hnames _ ih =>
      refine .init _ _ _ _ hnames fun b b' hmem => ?_
      exact ih b b' hmem hscopes (he.child (List.mem_map_of_mem (List.of_mem_zip hmem).1)) hlayered

variable {registry : Registry} {options : Options} {predicate converted : Predicate}
  {destination : String} {clock : Clock} {scope nextIdentity : Nat} {cache : Cache}
  {finish : State Cache}

/-- A converted predicate has the form of the original, defaults apart, over a new parameter of the
destination shape, and every parameter in it denotes what it did. -/
theorem converted_same_form (holder : predicate.OlderThan nextIdentity)
    (hmap : options.customMap = none)
    (hconvert : predicate.convert registry options clock scope destination nextIdentity cache =
      (.ok converted, finish)) :
    ∃ source, predicate.shape? = some source ∧
      converted.parameter = rootParameter predicate destination nextIdentity ∧
      SameForm ⟨source, options.errorHandling, predicate.parameter, converted.parameter⟩ []
        predicate.body converted.body := by
  obtain ⟨source, hshape, hroot, hconverts⟩ := convert_converts hmap hconvert
  refine ⟨source, hshape, hroot, ?_⟩
  have hbody : predicate.body.OlderThan nextIdentity :=
    fun p hp => holder p (List.mem_cons_of_mem _ hp)
  rw [hroot] at hconverts ⊢
  exact hconverts.sameForm rfl hbody (.nil _ (Nat.lt_succ_self _))

/-- A lambda over the predicate's own parameter hides it, and still does after the conversion. -/
theorem sample_same_form :
    ∃ source, Sample.predicate.shape? = some source ∧
      Sample.converted.parameter = rootParameter Sample.predicate "View" 1 ∧
      SameForm ⟨source, .throw, Sample.parameter, Sample.converted.parameter⟩ []
        Sample.predicate.body Sample.converted.body :=
  converted_same_form Sample.predicate_olderThan rfl Sample.conversion_eq

end Reshape.Conversion
