import Reshape.Proofs.Expr.Parts

/-!
# Relabelled parameters

Conversions hand out identities for new parameters, and a name where there is none. Predicates that
are the same but for this are relabellings of each other: every reference that denotes a parameter
gets another identity and another name, and keeps its type.
-/

namespace Reshape

namespace Expr

mutual
/-- `e.relabelled p identity name` is `e` with another identity and another name for `p`. -/
def relabelled (p : Parameter) (identity : Nat) (name : Option String) : Expr → Expr
  | .parameter q => .parameter (if q.denotes p then { q with identity, name } else q)
  | .member target field => .member (target.relabelled p identity name) field
  | .constant value type => .constant value type
  | .binary op left right =>
    .binary op (left.relabelled p identity name) (right.relabelled p identity name)
  | .unary op operand => .unary op (operand.relabelled p identity name)
  | .call method receiver arguments =>
    .call method (receiver.relabelled p identity name)
      (relabelledArguments p identity name arguments)
  | .conditional test ifTrue ifFalse =>
    .conditional (test.relabelled p identity name) (ifTrue.relabelled p identity name)
      (ifFalse.relabelled p identity name)
  | .lambda q body => .lambda q (body.relabelled p identity name)
  | .init shape bindings => .init shape (relabelledBindings p identity name bindings)

/-- `relabelledArguments p identity name arguments` are arguments with another identity and another
name for `p`. -/
def relabelledArguments (p : Parameter) (identity : Nat) (name : Option String) :
    List Expr → List Expr
  | [] => []
  | argument :: rest =>
    argument.relabelled p identity name :: relabelledArguments p identity name rest

/-- `relabelledBindings p identity name bindings` are bindings with another identity and another
name for `p`. -/
def relabelledBindings (p : Parameter) (identity : Nat) (name : Option String) :
    List (String × Expr) → List (String × Expr)
  | [] => []
  | (field, value) :: rest =>
    (field, value.relabelled p identity name) :: relabelledBindings p identity name rest
end

variable (p : Parameter) (identity : Nat) (name : Option String)

/-- Arguments are relabelled one by one. -/
theorem relabelled_arguments_eq (arguments : List Expr) :
    relabelledArguments p identity name arguments =
      arguments.map fun e => e.relabelled p identity name := by
  induction arguments with
  | nil => rfl
  | cons argument rest ih => rw [relabelledArguments, ih, List.map_cons]

theorem relabelled_bindings_eq (bindings : List (String × Expr)) :
    relabelledBindings p identity name bindings =
      bindings.map fun b => (b.1, b.2.relabelled p identity name) := by
  induction bindings with
  | nil => rfl
  | cons binding rest ih => rw [relabelledBindings, ih, List.map_cons]

/-- Relabelling keeps types. -/
@[simp] theorem resultType_relabelled (e : Expr) :
    (e.relabelled p identity name).resultType = e.resultType := by
  induction e with
  | parameter q =>
      rw [relabelled, resultType, resultType]
      split
      · rfl
      · rfl
  | member target field ih => rfl
  | constant value type => rfl
  | binary op left right ihleft ihright =>
      rw [relabelled, resultType, resultType, ihleft, ihright]
  | unary op operand ih =>
      cases op with
      | not => rfl
      | negate => exact ih
  | call method receiver arguments ihreceiver iharguments => rfl
  | conditional test ifTrue ifFalse ihtest ihtrue ihfalse => exact ihtrue
  | lambda q body ih => exact ih
  | init shape bindings ih => rfl

/-- A new label does not change the shape of an expression. -/
@[simp] theorem shape?_relabelled (e : Expr) :
    (e.relabelled p identity name).shape? = e.shape? := by
  rw [shape?, resultType_relabelled, shape?]

end Expr

/-- `predicate.relabelled identity name` is `predicate` with another identity and another name for
its parameter. -/
def Predicate.relabelled (predicate : Predicate) (identity : Nat) (name : Option String) :
    Predicate where
  parameter := { predicate.parameter with identity, name }
  body := predicate.body.relabelled predicate.parameter identity name

end Reshape
