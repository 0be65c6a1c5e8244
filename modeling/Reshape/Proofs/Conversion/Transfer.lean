import Reshape.Proofs.Conversion.Naming

/-!
# Transfers

Converting a predicate in which no lambda is over the source shape comes down to a function on
expressions: another parameter takes the place of the predicate's own, a field read on it is looked
up under its resolved name, and any other field under its own name, each on the type that its target
has by then. `Transfer.carry?` is this function. It has no result when some field is not found, or
when a method does not take the arguments it has.

One equivalence for each form of expression says what `carry?` makes of it, and later proofs use
these in both directions.
-/

namespace Reshape.Conversion

/-- A `Transfer` puts the parameter `after` in the place of `before` in a predicate over the source
shape, and names the fields read on it as the options say. -/
structure Transfer where
  registry : Registry
  options : Options
  source : String
  before : Parameter
  after : Parameter

namespace Transfer

/-- `transfer.parameter p` is the parameter in the place of `p`. -/
def parameter (transfer : Transfer) (p : Parameter) : Parameter :=
  if p.denotes transfer.before then transfer.after else p

/-- `transfer.name target field` is the name under which a field of `target` is looked up: the
resolved one for a field of the source shape that is read on the parameter itself, else its own. -/
def name (transfer : Transfer) (target : Expr) (field : FieldDescriptor) : String :=
  (attemptedName transfer.registry transfer.options field
    (target.isReferenceTo transfer.before && field.declaringShape == transfer.source)).1

/-- `transfer.field? target field target'` is the field in the place of a field of `target`, which
is carried over to `target'`. -/
def field? (transfer : Transfer) (target : Expr) (field : FieldDescriptor) (target' : Expr) :
    Option FieldDescriptor :=
  target'.shape?.bind fun shape => transfer.registry.member? shape (transfer.name target field)

mutual
/-- `transfer.carry? e` is what `e` is carried over to. -/
def carry? (transfer : Transfer) : Expr → Option Expr
  | .parameter p => some (.parameter (transfer.parameter p))
  | .member target field => do
    let target' ← transfer.carry? target
    return .member target' (← transfer.field? target field target')
  | .constant value type => some (.constant value type)
  | .binary op left right => return .binary op (← transfer.carry? left) (← transfer.carry? right)
  | .unary op operand => return .unary op (← transfer.carry? operand)
  | .call method receiver arguments => do
    if method.accepts arguments.length then
      return .call method (← transfer.carry? receiver) (← transfer.carryArguments? arguments)
    else none
  | .conditional test ifTrue ifFalse =>
    return .conditional (← transfer.carry? test) (← transfer.carry? ifTrue)
      (← transfer.carry? ifFalse)
  | .lambda p body => return .lambda p (← transfer.carry? body)
  | .init shape bindings => return .init shape (← transfer.carryBindings? bindings)

/-- `transfer.carryArguments? arguments` is what arguments are carried over to. -/
def carryArguments? (transfer : Transfer) : List Expr → Option (List Expr)
  | [] => some []
  | argument :: rest => return (← transfer.carry? argument) :: (← transfer.carryArguments? rest)

/-- `transfer.carryBindings? bindings` is what bindings are carried over to. -/
def carryBindings? (transfer : Transfer) : List (String × Expr) → Option (List (String × Expr))
  | [] => some []
  | (name, value) :: rest =>
    return (name, ← transfer.carry? value) :: (← transfer.carryBindings? rest)
end

variable {transfer : Transfer} {e e' : Expr}

/-! ## Forms of expressions -/

section

attribute [local simp] carry? carryArguments? carryBindings? Option.bind_eq_some_iff

/-- A reference is carried over to one to the parameter in place of its own. -/
theorem carry?_parameter {p : Parameter} :
    transfer.carry? (.parameter p) = some e' ↔ .parameter (transfer.parameter p) = e' := by
  simp

theorem carry?_constant {value : Value} {type : FieldType} :
    transfer.carry? (.constant value type) = some e' ↔ .constant value type = e' := by
  simp

/-- An access is carried over with its target, to the field found for it there. -/
theorem carry?_member {target : Expr} {field : FieldDescriptor} :
    transfer.carry? (.member target field) = some e' ↔
      ∃ target' field', transfer.carry? target = some target' ∧
        transfer.field? target field target' = some field' ∧ .member target' field' = e' := by
  simp

theorem carry?_binary {op : BinaryOp} {left right : Expr} :
    transfer.carry? (.binary op left right) = some e' ↔
      ∃ left' right', transfer.carry? left = some left' ∧ transfer.carry? right = some right' ∧
        .binary op left' right' = e' := by
  simp

theorem carry?_unary {op : UnaryOp} {operand : Expr} :
    transfer.carry? (.unary op operand) = some e' ↔
      ∃ operand', transfer.carry? operand = some operand' ∧ .unary op operand' = e' := by
  simp

/-- Arguments are carried over one by one. -/
theorem carryArguments?_eq_some {arguments arguments' : List Expr} :
    transfer.carryArguments? arguments = some arguments' ↔
      List.Forall₂ (fun e e' => transfer.carry? e = some e') arguments arguments' := by
  induction arguments generalizing arguments' with
  | nil => simp [eq_comm]
  | cons argument rest ih =>
      simp only [carryArguments?, Option.bind_eq_bind, Option.bind_eq_some_iff, Option.pure_def,
        Option.some.injEq, ih, List.forall₂_cons_left_iff]
      constructor
      · rintro ⟨argument', hargument, rest', hrest, rfl⟩
        exact ⟨argument', rest', hargument, hrest, rfl⟩
      · rintro ⟨argument', rest', hargument, hrest, rfl⟩
        exact ⟨argument', hargument, rest', hrest, rfl⟩

/-- A call is carried over with its receiver and arguments, if the method takes as many. -/
theorem carry?_call {method : Method} {receiver : Expr} {arguments : List Expr} :
    transfer.carry? (.call method receiver arguments) = some e' ↔
      method.accepts arguments.length ∧ ∃ receiver' arguments',
        transfer.carry? receiver = some receiver' ∧
        List.Forall₂ (fun e e' => transfer.carry? e = some e') arguments arguments' ∧
        .call method receiver' arguments' = e' := by
  cases haccepts : method.accepts arguments.length with
  | false => simp [haccepts]
  | true => simp [haccepts, carryArguments?_eq_some]

theorem carry?_conditional {test ifTrue ifFalse : Expr} :
    transfer.carry? (.conditional test ifTrue ifFalse) = some e' ↔
      ∃ test' ifTrue' ifFalse', transfer.carry? test = some test' ∧
        transfer.carry? ifTrue = some ifTrue' ∧ transfer.carry? ifFalse = some ifFalse' ∧
        .conditional test' ifTrue' ifFalse' = e' := by
  simp

/-- A lambda keeps its parameter when its body is carried over. -/
theorem carry?_lambda {p : Parameter} {body : Expr} :
    transfer.carry? (.lambda p body) = some e' ↔
      ∃ body', transfer.carry? body = some body' ∧ .lambda p body' = e' := by
  simp

/-- Bindings keep their names, and what they bind is carried over one by one. -/
theorem carryBindings?_eq_some {bindings bindings' : List (String × Expr)} :
    transfer.carryBindings? bindings = some bindings' ↔
      List.Forall₂ (fun b b' => b.1 = b'.1 ∧ transfer.carry? b.2 = some b'.2) bindings
        bindings' := by
  induction bindings generalizing bindings' with
  | nil => simp [eq_comm]
  | cons binding rest ih =>
      simp only [carryBindings?, Option.bind_eq_bind, Option.bind_eq_some_iff, Option.pure_def,
        Option.some.injEq, ih, List.forall₂_cons_left_iff]
      constructor
      · rintro ⟨value', hvalue, rest', hrest, rfl⟩
        exact ⟨(binding.1, value'), rest', ⟨rfl, hvalue⟩, hrest, rfl⟩
      · rintro ⟨⟨_, value'⟩, rest', ⟨rfl, hvalue⟩, hrest, rfl⟩
        exact ⟨value', hvalue, rest', hrest, rfl⟩

/-- An initializer is carried over with what its bindings bind. -/
theorem carry?_init {shape : String} {bindings : List (String × Expr)} :
    transfer.carry? (.init shape bindings) = some e' ↔
      ∃ bindings', List.Forall₂ (fun b b' => b.1 = b'.1 ∧ transfer.carry? b.2 = some b'.2)
        bindings bindings' ∧ .init shape bindings' = e' := by
  simp [carryBindings?_eq_some]

end

/-! ## Names -/

/-- A field of the source shape that is read on the old parameter has its resolved name. -/
theorem name_direct {target : Expr} {field : FieldDescriptor}
    (htarget : target.isReferenceTo transfer.before)
    (hfield : field.declaringShape = transfer.source) :
    transfer.name target field = (directName transfer.registry transfer.options field).1 := by
  rw [name, htarget, hfield, beq_self_eq_true]
  rfl

/-- Such a field is looked up on the type of the new parameter. -/
theorem field?_direct {target : Expr} {field : FieldDescriptor}
    (htarget : target.isReferenceTo transfer.before)
    (hfield : field.declaringShape = transfer.source) :
    transfer.field? target field (.parameter transfer.after) =
      transfer.after.shape?.bind fun shape =>
        transfer.registry.member? shape (directName transfer.registry transfer.options field).1 := by
  rw [field?, name_direct htarget hfield]
  rfl

/-- A reference to the old parameter is carried over to one to the new parameter. -/
theorem carry?_reference {target : Expr} (htarget : target.isReferenceTo transfer.before) :
    transfer.carry? target = some (.parameter transfer.after) := by
  cases target with
  | parameter p =>
      rw [carry?_parameter, parameter]
      exact congrArg Expr.parameter (if_pos htarget)
  | _ => cases htarget

/-- A field that is read on anything else keeps its name. -/
theorem name_other {target : Expr} {field : FieldDescriptor}
    (htarget : target.isReferenceTo transfer.before = false) :
    transfer.name target field = field.name := by
  rw [name, htarget, Bool.false_and]
  rfl

/-! ## Parts -/

/-- References are carried over to references, lambdas to lambdas over the same parameter, and
anything else to something else. -/
theorem own_of_carry? (h : transfer.carry? e = some e') :
    match e' with
    | .parameter q => ∃ p, e = .parameter p ∧ transfer.parameter p = q
    | .lambda p _ => ∃ body, e = .lambda p body
    | _ => e.own? = none := by
  cases e with
  | parameter p =>
      obtain rfl := carry?_parameter.1 h
      exact ⟨p, rfl, rfl⟩
  | member target field =>
      obtain ⟨_, _, _, _, rfl⟩ := carry?_member.1 h
      rfl
  | constant value type =>
      obtain rfl := carry?_constant.1 h
      rfl
  | binary op left right =>
      obtain ⟨_, _, _, _, rfl⟩ := carry?_binary.1 h
      rfl
  | unary op operand =>
      obtain ⟨_, _, rfl⟩ := carry?_unary.1 h
      rfl
  | call method receiver arguments =>
      obtain ⟨_, _, _, _, _, rfl⟩ := carry?_call.1 h
      rfl
  | conditional test ifTrue ifFalse =>
      obtain ⟨_, _, _, _, _, _, rfl⟩ := carry?_conditional.1 h
      rfl
  | lambda p body =>
      obtain ⟨_, _, rfl⟩ := carry?_lambda.1 h
      exact ⟨body, rfl⟩
  | init shape bindings =>
      obtain ⟨_, _, rfl⟩ := carry?_init.1 h
      rfl

/-- What is carried over to a parameter is a parameter. -/
theorem eq_parameter_of_carry? {q : Parameter} (h : transfer.carry? e = some (.parameter q)) :
    ∃ p, e = .parameter p ∧ transfer.parameter p = q :=
  own_of_carry? h

/-- When the new parameter came after all others, only references to the old one are carried over to
references to it. -/
theorem isReferenceTo_of_carry? (h : transfer.carry? e = some e')
    (holder : e.OlderThan transfer.after.identity) :
    e'.isReferenceTo transfer.after = e.isReferenceTo transfer.before := by
  cases hreference : e.isReferenceTo transfer.before with
  | true =>
      obtain rfl := Option.some.inj ((carry?_reference hreference).symm.trans h)
      exact Parameter.denotes_self _
  | false =>
      cases e' with
      | parameter q =>
          obtain ⟨p, rfl, hq⟩ := eq_parameter_of_carry? h
          have hkept : transfer.parameter p = p := if_neg (by rw [Bool.not_eq_true]; exact hreference)
          obtain rfl : p = q := hkept.symm.trans hq
          have hbefore : p.identity < transfer.after.identity := holder.own rfl
          show p.denotes transfer.after = false
          rw [Parameter.denotes, beq_eq_false_iff_ne]
          omega
      | _ => rfl

/-- The direct parts of an expression are carried over one by one. -/
theorem forall₂_children (h : transfer.carry? e = some e') :
    List.Forall₂ (fun part part' => transfer.carry? part = some part') e.children e'.children := by
  cases e with
  | parameter p =>
      obtain rfl := carry?_parameter.1 h
      exact .nil
  | member target field =>
      obtain ⟨target', field', htarget, _, rfl⟩ := carry?_member.1 h
      exact .cons htarget .nil
  | constant value type =>
      obtain rfl := carry?_constant.1 h
      exact .nil
  | binary op left right =>
      obtain ⟨left', right', hleft, hright, rfl⟩ := carry?_binary.1 h
      exact .cons hleft (.cons hright .nil)
  | unary op operand =>
      obtain ⟨operand', hoperand, rfl⟩ := carry?_unary.1 h
      exact .cons hoperand .nil
  | call method receiver arguments =>
      obtain ⟨_, receiver', arguments', hreceiver, harguments, rfl⟩ := carry?_call.1 h
      exact .cons hreceiver harguments
  | conditional test ifTrue ifFalse =>
      obtain ⟨test', ifTrue', ifFalse', htest, htrue, hfalse, rfl⟩ := carry?_conditional.1 h
      exact .cons htest (.cons htrue (.cons hfalse .nil))
  | lambda p body =>
      obtain ⟨body', hbody, rfl⟩ := carry?_lambda.1 h
      exact .cons hbody .nil
  | init shape bindings =>
      obtain ⟨bindings', hbindings, rfl⟩ := carry?_init.1 h
      refine List.forall₂_map_left_iff.2 (List.forall₂_map_right_iff.2 ?_)
      exact hbindings.imp fun _ _ hbinding => hbinding.2

/-- When an expression is carried over, so is each of its nodes. -/
theorem exists_carry?_node (h : transfer.carry? e = some e') {node : Expr} (hnode : node ∈ e.nodes) :
    ∃ node', transfer.carry? node = some node' := by
  induction e using Expr.children_induction generalizing e' with
  | step e ih =>
      rw [Expr.nodes_eq, List.mem_cons, List.mem_flatMap] at hnode
      rcases hnode with rfl | ⟨part, hpart, hnode⟩
      · exact ⟨e', h⟩
      · obtain ⟨part', _, hcarry⟩ := exists_right_of_forall₂ (forall₂_children h) hpart
        exact ih part hpart hcarry hnode

/-- Each node of what an expression is carried over to comes from one of its nodes. -/
theorem exists_node_of_carry? (h : transfer.carry? e = some e') {node' : Expr}
    (hnode' : node' ∈ e'.nodes) : ∃ node ∈ e.nodes, transfer.carry? node = some node' := by
  induction e using Expr.children_induction generalizing e' with
  | step e ih =>
      rw [Expr.nodes_eq, List.mem_cons, List.mem_flatMap] at hnode'
      rcases hnode' with rfl | ⟨part', hpart', hnode'⟩
      · exact ⟨e, e.self_mem_nodes, h⟩
      · obtain ⟨part, hpart, hcarry⟩ := exists_left_of_forall₂ (forall₂_children h) hpart'
        obtain ⟨node, hnode, hcarryNode⟩ := ih part hpart hcarry hnode'
        exact ⟨node, Expr.mem_nodes_of_child hnode hpart, hcarryNode⟩

/-- Lambdas keep their parameters. -/
theorem exists_lambda_of_carry? (h : transfer.carry? e = some e') {p : Parameter} {body' : Expr}
    (hnode' : .lambda p body' ∈ e'.nodes) : ∃ body, .lambda p body ∈ e.nodes := by
  obtain ⟨node, hnode, hcarry⟩ := exists_node_of_carry? h hnode'
  obtain ⟨body, rfl⟩ := own_of_carry? hcarry
  exact ⟨body, hnode⟩

/-- What an expression is carried over to has the new parameter and others that it had before. -/
theorem mem_parameters_of_carry? (h : transfer.carry? e = some e') {q : Parameter}
    (hq : q ∈ e'.parameters) : q = transfer.after ∨ q ∈ e.parameters := by
  obtain ⟨node', hnode', hown'⟩ := List.mem_filterMap.1 hq
  obtain ⟨node, hnode, hcarry⟩ := exists_node_of_carry? h hnode'
  have hsource := own_of_carry? hcarry
  cases node' with
  | parameter r =>
      obtain ⟨p, rfl, hp⟩ := hsource
      obtain rfl := Option.some.inj hown'
      rw [parameter] at hp
      split at hp
      · exact Or.inl hp.symm
      · subst hp
        exact Or.inr (List.mem_filterMap.2 ⟨_, hnode, rfl⟩)
  | lambda r body' =>
      obtain ⟨body, rfl⟩ := hsource
      obtain rfl := Option.some.inj hown'
      exact Or.inr (List.mem_filterMap.2 ⟨_, hnode, rfl⟩)
  | _ => cases hown'

end Transfer

end Reshape.Conversion
