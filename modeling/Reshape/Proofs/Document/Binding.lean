import Reshape.Document.Binding

/-!
# Steps of binding

`Binds` says that a computation that counts identities succeeds, and between which identities. One
lemma for each form of node says when binding it succeeds and with what, both ways. An induction
principle for nodes covers the arguments of a call and the bindings of an initializer one by one, as
descriptions of expressions do.
-/

namespace Reshape

/-- What holds of a node whenever it holds of its parts, holds of all nodes. -/
@[elab_as_elim, induction_eliminator]
theorem Node.induct {motive : Node → Prop}
    (parameter : ∀ name, motive (.parameter name))
    (member : ∀ target field, motive target → motive (.member target field))
    (constant : ∀ value type, motive (.constant value type))
    (binary : ∀ op left right, motive left → motive right → motive (.binary op left right))
    (unary : ∀ op operand, motive operand → motive (.unary op operand))
    (call : ∀ method receiver arguments, motive receiver → (∀ node ∈ arguments, motive node) →
      motive (.call method receiver arguments))
    (conditional : ∀ test ifTrue ifFalse, motive test → motive ifTrue → motive ifFalse →
      motive (.conditional test ifTrue ifFalse))
    (lambda : ∀ name type body, motive body → motive (.lambda name type body))
    (init : ∀ shape bindings, (∀ binding ∈ bindings, motive binding.2) →
      motive (.init shape bindings))
    (node : Node) : motive node :=
  @Node.rec motive (fun arguments => ∀ node ∈ arguments, motive node)
    (fun bindings => ∀ binding ∈ bindings, motive binding.2) (fun binding => motive binding.2)
    parameter member constant binary unary call conditional lambda init
    (fun _ h => absurd h List.not_mem_nil)
    (fun _ _ hhead htail _ h => by
      rcases List.mem_cons.1 h with rfl | h
      · exact hhead
      · exact htail _ h)
    (fun _ h => absurd h List.not_mem_nil)
    (fun _ _ hhead htail _ h => by
      rcases List.mem_cons.1 h with rfl | h
      · exact hhead
      · exact htail _ h)
    (fun _ _ h => h) node

namespace Document

/-! ## Computations -/

section

variable {α β : Type} {start finish : Nat}

/-- `Binds action start a finish` says that `action` succeeds with `a`, `start` being the next
identity before it and `finish` the one after it. -/
def Binds (action : Binding α) (start : Nat) (a : α) (finish : Nat) : Prop :=
  action.run start = .ok (a, finish)

/-- A result that is given binds nothing and uses up no identity. -/
theorem binds_pure {a b : α} : Binds (pure a) start b finish ↔ a = b ∧ start = finish := by
  show (Except.ok (a, start) : Except Error (α × Nat)) = .ok (b, finish) ↔ _
  simp

/-- A result that needs no identity is passed on. -/
theorem binds_lift {result : Except Error α} {a : α} :
    Binds (liftM result) start a finish ↔ result = .ok a ∧ start = finish := by
  cases result with
  | error error =>
      constructor
      · rintro ⟨⟩
      · rintro ⟨⟨⟩, _⟩
  | ok b =>
      show (Except.ok (b, start) : Except Error (α × Nat)) = .ok (a, finish) ↔ _
      simp

/-- A composed computation succeeds when both parts do, one after the other. -/
theorem binds_bind {action : Binding α} {next : α → Binding β} {b : β} :
    Binds (action >>= next) start b finish ↔
      ∃ a middle, Binds action start a middle ∧ Binds (next a) middle b finish := by
  simp only [Binds, StateT.run_bind]
  rcases action.run start with error | ⟨a, middle⟩
  · constructor
    · rintro ⟨⟩
    · rintro ⟨_, _, ⟨⟩, _⟩
  · constructor
    · intro h
      exact ⟨a, middle, rfl, h⟩
    · rintro ⟨_, _, h, hnext⟩
      cases h
      exact hnext

/-- A new parameter takes the next identity. -/
theorem binds_newParameter {name : Option String} {type : FieldType} {p : Parameter} :
    Binds (newParameter name type) start p finish ↔
      (⟨start, name, type⟩ : Parameter) = p ∧ start + 1 = finish := by
  show (Except.ok (⟨start, name, type⟩, start + 1) : Except Error (Parameter × Nat)) =
    .ok (p, finish) ↔ _
  simp

end

/-! ## Forms of nodes -/

variable {registry : Registry} {scopes : List Parameter} {start finish : Nat} {e : Expr}

attribute [local simp] bindNode bindArguments bindBindings binds_pure binds_lift

/-- A reference is bound to the parameter of its name. -/
theorem binds_parameter {name : Option String} :
    Binds (bindNode registry scopes (.parameter name)) start e finish ↔
      ∃ p, findParameter scopes name = .ok p ∧ e = .parameter p ∧ start = finish := by
  simp only [bindNode, binds_bind, binds_lift, binds_pure]
  constructor
  · rintro ⟨p, _, ⟨hp, rfl⟩, rfl, rfl⟩
    exact ⟨p, hp, rfl, rfl⟩
  · rintro ⟨p, hp, rfl, rfl⟩
    exact ⟨p, _, ⟨hp, rfl⟩, rfl, rfl⟩

/-- An access is bound when its target is, to the field found on its type. -/
theorem binds_member {target : Node} {field : String} :
    Binds (bindNode registry scopes (.member target field)) start e finish ↔
      ∃ target', Binds (bindNode registry scopes target) start target' finish ∧
        Expr.access registry target' field = .ok e := by
  simp only [bindNode, binds_bind, binds_lift]
  constructor
  · rintro ⟨target', _, htarget, haccess, rfl⟩
    exact ⟨target', htarget, haccess⟩
  · rintro ⟨target', htarget, haccess⟩
    exact ⟨target', _, htarget, haccess, rfl⟩

/-- A constant is bound to what its JSON is read as. -/
theorem binds_constant {json : Json} {type : Option String} :
    Binds (bindNode registry scopes (.constant json type)) start e finish ↔
      bindConstant json type = .ok e ∧ start = finish := by
  simp

/-- The operands of a binary operation are bound from left to right. -/
theorem binds_binary {op : BinaryOp} {left right : Node} :
    Binds (bindNode registry scopes (.binary op left right)) start e finish ↔
      ∃ left' middle right', Binds (bindNode registry scopes left) start left' middle ∧
        Binds (bindNode registry scopes right) middle right' finish ∧
        e = .binary op left' right' := by
  simp only [bindNode, binds_bind, binds_pure]
  constructor
  · rintro ⟨left', middle, hleft, right', _, hright, rfl, rfl⟩
    exact ⟨left', middle, right', hleft, hright, rfl⟩
  · rintro ⟨left', middle, right', hleft, hright, rfl⟩
    exact ⟨left', middle, hleft, right', _, hright, rfl, rfl⟩

theorem binds_unary {op : UnaryOp} {operand : Node} :
    Binds (bindNode registry scopes (.unary op operand)) start e finish ↔
      ∃ operand', Binds (bindNode registry scopes operand) start operand' finish ∧
        e = .unary op operand' := by
  simp only [bindNode, binds_bind, binds_pure]
  constructor
  · rintro ⟨operand', _, hoperand, rfl, rfl⟩
    exact ⟨operand', hoperand, rfl⟩
  · rintro ⟨operand', hoperand, rfl⟩
    exact ⟨operand', _, hoperand, rfl, rfl⟩

/-- A call is bound receiver first, then its arguments. -/
theorem binds_call {method : Method} {receiver : Node} {arguments : List Node} :
    Binds (bindNode registry scopes (.call method receiver arguments)) start e finish ↔
      ∃ receiver' middle arguments', Binds (bindNode registry scopes receiver) start receiver'
          middle ∧
        Binds (bindArguments registry scopes arguments) middle arguments' finish ∧
        e = .call method receiver' arguments' := by
  simp only [bindNode, binds_bind, binds_pure]
  constructor
  · rintro ⟨receiver', middle, hreceiver, arguments', _, harguments, rfl, rfl⟩
    exact ⟨receiver', middle, arguments', hreceiver, harguments, rfl⟩
  · rintro ⟨receiver', middle, arguments', hreceiver, harguments, rfl⟩
    exact ⟨receiver', middle, hreceiver, arguments', _, harguments, rfl, rfl⟩

/-- A conditional is bound in the order in which its parts are written. -/
theorem binds_conditional {test ifTrue ifFalse : Node} :
    Binds (bindNode registry scopes (.conditional test ifTrue ifFalse)) start e finish ↔
      ∃ test' tested ifTrue' middle ifFalse',
        Binds (bindNode registry scopes test) start test' tested ∧
        Binds (bindNode registry scopes ifTrue) tested ifTrue' middle ∧
        Binds (bindNode registry scopes ifFalse) middle ifFalse' finish ∧
        e = .conditional test' ifTrue' ifFalse' := by
  simp only [bindNode, binds_bind, binds_pure]
  constructor
  · rintro ⟨test', tested, htest, ifTrue', middle, htrue, ifFalse', _, hfalse, rfl, rfl⟩
    exact ⟨test', tested, ifTrue', middle, ifFalse', htest, htrue, hfalse, rfl⟩
  · rintro ⟨test', tested, ifTrue', middle, ifFalse', htest, htrue, hfalse, rfl⟩
    exact ⟨test', tested, htest, ifTrue', middle, htrue, ifFalse', _, hfalse, rfl, rfl⟩

/-- The parameter of a lambda gets the next identity, and is the innermost in its body. -/
theorem binds_lambda {name : Option String} {text : String} {body : Node} :
    Binds (bindNode registry scopes (.lambda name text body)) start e finish ↔
      ∃ type body', readType text = .ok type ∧
        Binds (bindNode registry (⟨start, name, type⟩ :: scopes) body) (start + 1) body' finish ∧
        e = .lambda ⟨start, name, type⟩ body' := by
  simp only [bindNode, binds_bind, binds_lift, binds_newParameter, binds_pure]
  constructor
  · rintro ⟨type, _, ⟨htype, rfl⟩, _, _, ⟨rfl, rfl⟩, body', _, hbody, rfl, rfl⟩
    exact ⟨type, body', htype, hbody, rfl⟩
  · rintro ⟨type, body', htype, hbody, rfl⟩
    exact ⟨type, _, ⟨htype, rfl⟩, _, _, ⟨rfl, rfl⟩, body', _, hbody, rfl, rfl⟩

theorem binds_init {shape : String} {bindings : List (String × Node)} :
    Binds (bindNode registry scopes (.init shape bindings)) start e finish ↔
      ∃ bindings', Binds (bindBindings registry scopes bindings) start bindings' finish ∧
        e = .init shape bindings' := by
  simp only [bindNode, binds_bind, binds_pure]
  constructor
  · rintro ⟨bindings', _, hbindings, rfl, rfl⟩
    exact ⟨bindings', hbindings, rfl⟩
  · rintro ⟨bindings', hbindings, rfl⟩
    exact ⟨bindings', _, hbindings, rfl, rfl⟩

theorem binds_arguments_nil {es : List Expr} :
    Binds (bindArguments registry scopes []) start es finish ↔ es = [] ∧ start = finish := by
  simp [eq_comm]

/-- Arguments are bound one after the other. -/
theorem binds_arguments_cons {node : Node} {rest : List Node} {es : List Expr} :
    Binds (bindArguments registry scopes (node :: rest)) start es finish ↔
      ∃ e middle rest', Binds (bindNode registry scopes node) start e middle ∧
        Binds (bindArguments registry scopes rest) middle rest' finish ∧ es = e :: rest' := by
  simp only [bindArguments, binds_bind, binds_pure]
  constructor
  · rintro ⟨e, middle, he, rest', _, hrest, rfl, rfl⟩
    exact ⟨e, middle, rest', he, hrest, rfl⟩
  · rintro ⟨e, middle, rest', he, hrest, rfl⟩
    exact ⟨e, middle, he, rest', _, hrest, rfl, rfl⟩

theorem binds_bindings_nil {bindings : List (String × Expr)} :
    Binds (bindBindings registry scopes []) start bindings finish ↔
      bindings = [] ∧ start = finish := by
  simp [eq_comm]

/-- Bindings are bound one after the other and keep their names. -/
theorem binds_bindings_cons {name : String} {node : Node} {rest : List (String × Node)}
    {bindings : List (String × Expr)} :
    Binds (bindBindings registry scopes ((name, node) :: rest)) start bindings finish ↔
      ∃ e middle rest', Binds (bindNode registry scopes node) start e middle ∧
        Binds (bindBindings registry scopes rest) middle rest' finish ∧
        bindings = (name, e) :: rest' := by
  simp only [bindBindings, binds_bind, binds_pure]
  constructor
  · rintro ⟨e, middle, he, rest', _, hrest, rfl, rfl⟩
    exact ⟨e, middle, rest', he, hrest, rfl⟩
  · rintro ⟨e, middle, rest', he, hrest, rfl⟩
    exact ⟨e, middle, he, rest', _, hrest, rfl, rfl⟩

/-! ## Descriptions of lists -/

/-- Arguments are described one by one. -/
theorem ofArguments_eq_map (arguments : List Expr) :
    Node.ofArguments arguments = arguments.map Node.ofExpr := by
  induction arguments with
  | nil => rfl
  | cons e rest ih => rw [Node.ofArguments, ih, List.map_cons]

theorem ofBindings_eq_map (bindings : List (String × Expr)) :
    Node.ofBindings bindings = bindings.map fun b => (b.1, Node.ofExpr b.2) := by
  induction bindings with
  | nil => rfl
  | cons b rest ih => rw [Node.ofBindings, ih, List.map_cons]

end Document

end Reshape
