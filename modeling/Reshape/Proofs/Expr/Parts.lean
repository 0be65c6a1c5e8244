import Mathlib.Data.List.Forall2
import Reshape.Predicate

/-!
# Parts of expressions

An induction principle for expressions, in which the arguments of a call and the bindings of an
initializer are covered one by one, and facts about the nodes of an expression. The parameters of an
expression are those that its nodes refer to or bind. Lists of expressions are the same when this is
so one by one.
-/

namespace Reshape

/-- Two references denote one parameter when their identities agree. -/
theorem Parameter.denotes_iff {p q : Parameter} : p.denotes q ↔ p.identity = q.identity := by
  simp [denotes]

@[simp] theorem Parameter.denotes_self (p : Parameter) : p.denotes p := by
  simp [denotes]

namespace Expr

/-- What holds of an expression whenever it holds of its parts, holds of all expressions. -/
@[elab_as_elim, induction_eliminator]
theorem induct {motive : Expr → Prop}
    (parameter : ∀ p, motive (.parameter p))
    (member : ∀ target field, motive target → motive (.member target field))
    (constant : ∀ value type, motive (.constant value type))
    (binary : ∀ op left right, motive left → motive right → motive (.binary op left right))
    (unary : ∀ op operand, motive operand → motive (.unary op operand))
    (call : ∀ method receiver arguments, motive receiver → (∀ e ∈ arguments, motive e) →
      motive (.call method receiver arguments))
    (conditional : ∀ test ifTrue ifFalse, motive test → motive ifTrue → motive ifFalse →
      motive (.conditional test ifTrue ifFalse))
    (lambda : ∀ p body, motive body → motive (.lambda p body))
    (init : ∀ shape bindings, (∀ binding ∈ bindings, motive binding.2) →
      motive (.init shape bindings))
    (e : Expr) : motive e :=
  @Expr.rec motive (fun arguments => ∀ e ∈ arguments, motive e)
    (fun bindings => ∀ binding ∈ bindings, motive binding.2) (fun binding => motive binding.2)
    parameter member constant binary unary call conditional lambda init
    (fun _ h => absurd h List.not_mem_nil)
    (fun _ _ hhead htail _ h => by
      rcases List.mem_cons.1 h with rfl | h
      · exact hhead
      · exact htail _ h)
    (fun _ h => absurd h List.not_mem_nil)
    (fun _ _ hhead htail _ h => by
      rcases List.mem_cons.1 h with rfl | h
      · exact hhead
      · exact htail _ h)
    (fun _ _ h => h) e

/-- What holds of an expression whenever it holds of its direct parts, holds of all expressions. -/
@[elab_as_elim]
theorem children_induction {motive : Expr → Prop}
    (step : ∀ e, (∀ part ∈ e.children, motive part) → motive e) (e : Expr) : motive e := by
  induction e with
  | parameter p => exact step _ (by simp [children])
  | member target field ih => exact step _ (by simpa [children] using ih)
  | constant value type => exact step _ (by simp [children])
  | binary op left right ihleft ihright => exact step _ (by simp [children, ihleft, ihright])
  | unary op operand ih => exact step _ (by simpa [children] using ih)
  | call method receiver arguments ihreceiver iharguments =>
      exact step _ (by simpa [children, ihreceiver] using iharguments)
  | conditional test ifTrue ifFalse ihtest ihtrue ihfalse =>
      exact step _ (by simp [children, ihtest, ihtrue, ihfalse])
  | lambda p body ih => exact step _ (by simpa [children] using ih)
  | init shape bindings ih =>
      refine step _ fun part hpart => ?_
      obtain ⟨binding, hbinding, rfl⟩ := List.mem_map.1 hpart
      exact ih binding hbinding

attribute [local simp] nodes nodesOfArguments nodesOfBindings

/-- The nodes of arguments are those of each of them. -/
theorem nodes_of_arguments_eq (arguments : List Expr) :
    nodesOfArguments arguments = arguments.flatMap nodes := by
  induction arguments with
  | nil => rfl
  | cons argument rest ih => simp [ih]

theorem nodes_of_bindings_eq (bindings : List (String × Expr)) :
    nodesOfBindings bindings = (bindings.map (·.2)).flatMap nodes := by
  induction bindings with
  | nil => rfl
  | cons binding rest ih => simp [ih]

/-- The nodes of an expression are itself and the nodes of its direct parts. -/
theorem nodes_eq (e : Expr) : e.nodes = e :: e.children.flatMap nodes := by
  cases e <;> simp [children, nodes_of_arguments_eq, nodes_of_bindings_eq]

/-- An expression is one of its own nodes. -/
theorem self_mem_nodes (e : Expr) : e ∈ e.nodes := by
  rw [nodes_eq]
  exact List.mem_cons_self

/-- The nodes of a direct part are nodes of the whole. -/
theorem mem_nodes_of_child {e part node : Expr} (h : node ∈ part.nodes)
    (hpart : part ∈ e.children) : node ∈ e.nodes := by
  rw [nodes_eq]
  exact List.mem_cons_of_mem _ (List.mem_flatMap.2 ⟨part, hpart, h⟩)

/-- A property of all nodes is one of the root and of all nodes of the direct parts. -/
theorem forall_nodes_iff {property : Expr → Prop} {e : Expr} :
    (∀ node ∈ e.nodes, property node) ↔
      property e ∧ ∀ part ∈ e.children, ∀ node ∈ part.nodes, property node := by
  rw [nodes_eq]
  simp only [List.forall_mem_cons, List.mem_flatMap]
  constructor
  · rintro ⟨hroot, h⟩
    exact ⟨hroot, fun part hpart node hnode => h node ⟨part, hpart, hnode⟩⟩
  · rintro ⟨hroot, h⟩
    exact ⟨hroot, fun node ⟨part, hpart, hnode⟩ => h part hpart node hnode⟩

/-- The nodes of a node are nodes of the whole. -/
theorem mem_nodes_trans {e node part : Expr} (hnode : node ∈ e.nodes) (hpart : part ∈ node.nodes) :
    part ∈ e.nodes := by
  induction e using children_induction generalizing node with
  | step e ih =>
      rw [nodes_eq, List.mem_cons, List.mem_flatMap] at hnode
      rcases hnode with rfl | ⟨child, hchild, hnode⟩
      · exact hpart
      · exact mem_nodes_of_child (ih child hchild hnode hpart) hchild

/-! ## Sameness of lists -/

/-- Arguments are the same when they are one by one. -/
theorem sameArguments_iff {arguments arguments' : List Expr} :
    sameArguments arguments arguments' ↔
      List.Forall₂ (fun e e' => e.same e' = true) arguments arguments' := by
  induction arguments generalizing arguments' with
  | nil => cases arguments' <;> simp [sameArguments]
  | cons e rest ih => cases arguments' <;> simp [sameArguments, ih]

theorem sameBindings_iff {bindings bindings' : List (String × Expr)} :
    sameBindings bindings bindings' ↔
      List.Forall₂ (fun b b' => b.1 = b'.1 ∧ b.2.same b'.2 = true) bindings bindings' := by
  induction bindings generalizing bindings' with
  | nil => cases bindings' <;> simp [sameBindings]
  | cons b rest ih => cases bindings' <;> simp [sameBindings, ih]

/-! ## Parameters -/

/-- `e.own?` is the parameter that the root of `e` refers to or binds. -/
def own? : Expr → Option Parameter
  | .parameter p => some p
  | .lambda p _ => some p
  | _ => none

/-- What holds of references, of a lambda whenever it holds of the body, and of any other expression
whenever it holds of its direct parts, holds of all expressions. -/
@[elab_as_elim]
theorem binding_induction {motive : Expr → Prop} (parameter : ∀ p, motive (.parameter p))
    (lambda : ∀ p body, motive body → motive (.lambda p body))
    (parts : ∀ e, e.own? = none → (∀ part ∈ e.children, motive part) → motive e) (e : Expr) :
    motive e := by
  induction e using children_induction with
  | step e ih =>
      cases e with
      | parameter p => exact parameter p
      | lambda p body => exact lambda p body (ih body (by simp [children]))
      | _ => exact parts _ rfl ih

/-- `e.parameters` are the parameters that `e` refers to or binds. -/
def parameters (e : Expr) : List Parameter := e.nodes.filterMap own?

/-- The parameters of a direct part are parameters of the whole. -/
theorem mem_parameters_of_child {e part : Expr} {p : Parameter} (h : p ∈ part.parameters)
    (hpart : part ∈ e.children) : p ∈ e.parameters := by
  obtain ⟨node, hnode, hown⟩ := List.mem_filterMap.1 h
  exact List.mem_filterMap.2 ⟨node, mem_nodes_of_child hnode hpart, hown⟩

theorem mem_parameters_of_own {e : Expr} {p : Parameter} (h : e.own? = some p) :
    p ∈ e.parameters :=
  List.mem_filterMap.2 ⟨e, e.self_mem_nodes, h⟩

/-- The parameters of a node are parameters of the whole. -/
theorem mem_parameters_of_node {e node : Expr} {p : Parameter} (h : p ∈ node.parameters)
    (hnode : node ∈ e.nodes) : p ∈ e.parameters := by
  obtain ⟨part, hpart, hown⟩ := List.mem_filterMap.1 h
  exact List.mem_filterMap.2 ⟨part, mem_nodes_trans hnode hpart, hown⟩

/-- A property of all parameters is one of that of the root and of those of the direct parts. -/
theorem forall_parameters_iff {property : Parameter → Prop} {e : Expr} :
    (∀ p ∈ e.parameters, property p) ↔
      (∀ p, e.own? = some p → property p) ∧
        ∀ part ∈ e.children, ∀ p ∈ part.parameters, property p := by
  constructor
  · intro h
    exact ⟨fun p hown => h p (mem_parameters_of_own hown),
      fun part hpart p hp => h p (mem_parameters_of_child hp hpart)⟩
  · rintro ⟨hown, hparts⟩ p hp
    obtain ⟨node, hnode, hnodeOwn⟩ := List.mem_filterMap.1 hp
    rw [nodes_eq, List.mem_cons, List.mem_flatMap] at hnode
    rcases hnode with rfl | ⟨part, hpart, hnode⟩
    · exact hown p hnodeOwn
    · exact hparts part hpart p (List.mem_filterMap.2 ⟨node, hnode, hnodeOwn⟩)

/-- `e.OlderThan identity` says that the parameters of `e` came before `identity`. -/
def OlderThan (identity : Nat) (e : Expr) : Prop := ∀ p ∈ e.parameters, p.identity < identity

theorem OlderThan.child {e part : Expr} {identity : Nat} (h : e.OlderThan identity)
    (hpart : part ∈ e.children) : part.OlderThan identity :=
  fun p hp => h p (mem_parameters_of_child hp hpart)

theorem OlderThan.own {e : Expr} {identity : Nat} {p : Parameter} (h : e.OlderThan identity)
    (hown : e.own? = some p) : p.identity < identity :=
  h p (mem_parameters_of_own hown)

/-- `ClosedIn bound e` says that every reference in `e` denotes one of the parameters `bound`, or
that of a lambda around it in `e`. -/
inductive ClosedIn : List Parameter → Expr → Prop where
  | parameter {bound p q} : q ∈ bound → q.denotes p → ClosedIn bound (.parameter p)
  | lambda {bound p body} : ClosedIn (p :: bound) body → ClosedIn bound (.lambda p body)
  | parts {bound e} :
      e.own? = none → (∀ part ∈ e.children, ClosedIn bound part) → ClosedIn bound e

/-- A reference is closed when some parameter has its identity. -/
theorem closedIn_parameter {bound : List Parameter} {p : Parameter} :
    ClosedIn bound (.parameter p) ↔ ∃ q ∈ bound, q.denotes p := by
  constructor
  · intro h
    cases h with
    | parameter hq hdenotes => exact ⟨_, hq, hdenotes⟩
    | parts hown => cases hown
  · rintro ⟨q, hq, hdenotes⟩
    exact .parameter hq hdenotes

/-- A lambda is closed when its body is, with its parameter. -/
theorem closedIn_lambda {bound : List Parameter} {p : Parameter} {body : Expr} :
    ClosedIn bound (.lambda p body) ↔ ClosedIn (p :: bound) body := by
  constructor
  · intro h
    cases h with
    | lambda hbody => exact hbody
    | parts hown => cases hown
  · exact .lambda

theorem closedIn_parts {bound : List Parameter} {e : Expr} (hown : e.own? = none) :
    ClosedIn bound e ↔ ∀ part ∈ e.children, ClosedIn bound part := by
  constructor
  · intro h
    cases h with
    | parameter => cases hown
    | lambda => cases hown
    | parts _ hparts => exact hparts
  · exact .parts hown

/-- `ScopedIn bound e` says that every reference in `e` is to the innermost parameter with its
identity among those of the lambdas around it in `e` and `bound`, the innermost first. -/
inductive ScopedIn : List Parameter → Expr → Prop where
  | parameter {bound p} :
      (bound.find? fun q => q.denotes p) = some p → ScopedIn bound (.parameter p)
  | lambda {bound p body} : ScopedIn (p :: bound) body → ScopedIn bound (.lambda p body)
  | parts {bound e} :
      e.own? = none → (∀ part ∈ e.children, ScopedIn bound part) → ScopedIn bound e

/-- A reference is in scope when the innermost parameter of its identity is the very one. -/
theorem scopedIn_parameter {bound : List Parameter} {p : Parameter} :
    ScopedIn bound (.parameter p) ↔ (bound.find? fun q => q.denotes p) = some p := by
  constructor
  · intro h
    cases h with
    | parameter hfound => exact hfound
    | parts hown => cases hown
  · exact .parameter

/-- A lambda is in scope when its body is, inside its parameter. -/
theorem scopedIn_lambda {bound : List Parameter} {p : Parameter} {body : Expr} :
    ScopedIn bound (.lambda p body) ↔ ScopedIn (p :: bound) body := by
  constructor
  · intro h
    cases h with
    | lambda hbody => exact hbody
    | parts hown => cases hown
  · exact .lambda

theorem scopedIn_parts {bound : List Parameter} {e : Expr} (hown : e.own? = none) :
    ScopedIn bound e ↔ ∀ part ∈ e.children, ScopedIn bound part := by
  constructor
  · intro h
    cases h with
    | parameter => cases hown
    | lambda => cases hown
    | parts _ hparts => exact hparts
  · exact .parts hown

/-- A reference to a parameter that is found denotes it. -/
theorem ScopedIn.closedIn {bound : List Parameter} {e : Expr} (h : ScopedIn bound e) :
    ClosedIn bound e := by
  induction h with
  | parameter hfound =>
      exact .parameter (List.mem_of_find?_eq_some hfound) (Parameter.denotes_self _)
  | lambda _ ih => exact .lambda ih
  | parts hown _ ih => exact .parts hown ih

end Expr

namespace Predicate

/-- `predicate.parameters` are the parameter of a predicate and those of its body. -/
def parameters (predicate : Predicate) : List Parameter :=
  predicate.parameter :: predicate.body.parameters

/-- `predicate.OlderThan identity` says that the parameters of a predicate came before
`identity`. -/
def OlderThan (identity : Nat) (predicate : Predicate) : Prop :=
  ∀ p ∈ predicate.parameters, p.identity < identity

/-- `predicate.Coherent` says that references with one identity are to one parameter: they agree on
its name and type. -/
def Coherent (predicate : Predicate) : Prop :=
  ∀ p ∈ predicate.parameters, ∀ q ∈ predicate.parameters, p.denotes q → p = q

end Predicate

end Reshape
