import Reshape.Proofs.Document.Binding
import Reshape.Proofs.Elementwise
import Reshape.Proofs.Expr.Parts

/-!
# Restated constants

An expression may be written down and read again with constants that have other values, such as a
decimal of another scale. `Expr.restated` puts a value in the place of that of each constant, and
changes nothing else. If the new values are written down alike, so is the expression
(`ofExpr_restated`), and if what is the same as a new value is the same as the old one, this is so
for expressions (`same_of_restated`).
-/

namespace Reshape

namespace Expr

mutual
/-- `e.restated restate` is `e` with the value of each constant restated. -/
def restated (restate : Value → Value) : Expr → Expr
  | .parameter p => .parameter p
  | .member target field => .member (target.restated restate) field
  | .constant value type => .constant (restate value) type
  | .binary op left right => .binary op (left.restated restate) (right.restated restate)
  | .unary op operand => .unary op (operand.restated restate)
  | .call method receiver arguments =>
    .call method (receiver.restated restate) (restatedArguments restate arguments)
  | .conditional test ifTrue ifFalse =>
    .conditional (test.restated restate) (ifTrue.restated restate) (ifFalse.restated restate)
  | .lambda p body => .lambda p (body.restated restate)
  | .init shape bindings => .init shape (restatedBindings restate bindings)

/-- `restatedArguments restate arguments` are arguments with restated constants. -/
def restatedArguments (restate : Value → Value) : List Expr → List Expr
  | [] => []
  | argument :: rest => argument.restated restate :: restatedArguments restate rest

/-- `restatedBindings restate bindings` are bindings with restated constants. -/
def restatedBindings (restate : Value → Value) :
    List (String × Expr) → List (String × Expr)
  | [] => []
  | (field, value) :: rest => (field, value.restated restate) :: restatedBindings restate rest
end

variable (restate : Value → Value)

/-- Arguments are restated one by one. -/
theorem restated_arguments_eq (arguments : List Expr) :
    restatedArguments restate arguments = arguments.map (restated restate) := by
  induction arguments with
  | nil => rfl
  | cons argument rest ih => rw [restatedArguments, ih, List.map_cons]

theorem restated_bindings_eq (bindings : List (String × Expr)) :
    restatedBindings restate bindings = bindings.map fun b => (b.1, b.2.restated restate) := by
  induction bindings with
  | nil => rfl
  | cons binding rest ih => rw [restatedBindings, ih, List.map_cons]

/-- The direct parts of a restated expression are the restated parts. -/
theorem children_restated (e : Expr) :
    (e.restated restate).children = e.children.map (restated restate) := by
  cases e with
  | call method receiver arguments =>
      rw [restated, restated_arguments_eq]
      rfl
  | init shape bindings =>
      rw [restated, restated_bindings_eq, children, children, List.map_map, List.map_map]
      rfl
  | _ => rfl

/-- The nodes of a restated expression are the restated nodes. -/
theorem nodes_restated (e : Expr) :
    (e.restated restate).nodes = e.nodes.map (restated restate) := by
  induction e using children_induction with
  | step e ih =>
      rw [nodes_eq, nodes_eq e, children_restated, List.map_cons, List.flatMap_map,
        List.map_flatMap]
      rw [List.flatMap_def, List.map_congr_left ih, List.flatMap_def]

/-- Restating constants keeps all parameters. -/
@[simp] theorem own_restated (e : Expr) : (e.restated restate).own? = e.own? := by
  cases e <;> rfl

/-- Restating keeps types. -/
@[simp] theorem resultType_restated (e : Expr) :
    (e.restated restate).resultType = e.resultType := by
  induction e with
  | binary op left right ihleft ihright => rw [restated, resultType, resultType, ihleft, ihright]
  | unary op operand ih =>
      cases op with
      | not => rfl
      | negate => exact ih
  | conditional test ifTrue ifFalse ihtest ihtrue ihfalse => exact ihtrue
  | lambda p body ih => exact ih
  | _ => rfl

variable {restate}

/-- The constants of an expression are found restated in it. -/
theorem constant_mem_restated {e : Expr} {value : Value} {type : FieldType}
    (h : .constant value type ∈ e.nodes) :
    .constant (restate value) type ∈ (e.restated restate).nodes := by
  rw [nodes_restated]
  exact List.mem_map_of_mem h

/-- A constant of a restated expression is one of the expression, restated. -/
theorem exists_constant_of_restated {e : Expr} {value : Value} {type : FieldType}
    (h : .constant value type ∈ (e.restated restate).nodes) :
    ∃ original, .constant original type ∈ e.nodes ∧ value = restate original := by
  rw [nodes_restated, List.mem_map] at h
  obtain ⟨node, hnode, heq⟩ := h
  cases node with
  | constant original type' =>
      cases heq
      exact ⟨original, hnode, rfl⟩
  | _ => cases heq

/-- Restating each constant as itself changes nothing. -/
theorem restated_id (e : Expr) : e.restated id = e := by
  induction e with
  | parameter p => rfl
  | member target field ih => rw [restated, ih]
  | constant value type => rfl
  | binary op left right ihleft ihright => rw [restated, ihleft, ihright]
  | unary op operand ih => rw [restated, ih]
  | call method receiver arguments ihreceiver iharguments =>
      rw [restated, ihreceiver, restated_arguments_eq, List.map_congr_left iharguments,
        List.map_id']
  | conditional test ifTrue ifFalse ihtest ihtrue ihfalse => rw [restated, ihtest, ihtrue, ihfalse]
  | lambda p body ih => rw [restated, ih]
  | init shape bindings ih =>
      have hbindings : bindings.map (fun b => (b.1, b.2.restated id)) =
          bindings.map id := List.map_congr_left fun b hb => Prod.ext rfl (ih b hb)
      rw [restated, restated_bindings_eq, hbindings, List.map_id]

/-! ## Descriptions -/

/-- An expression is written down alike when restated values are. -/
theorem ofExpr_restated (h : ∀ value, (restate value).toJson = value.toJson) (e : Expr) :
    Node.ofExpr (e.restated restate) = Node.ofExpr e := by
  induction e with
  | parameter p => rfl
  | member target field ih => rw [restated, Node.ofExpr, Node.ofExpr, ih]
  | constant value type => rw [restated, Node.ofExpr, Node.ofExpr, h]
  | binary op left right ihleft ihright =>
      rw [restated, Node.ofExpr, Node.ofExpr, ihleft, ihright]
  | unary op operand ih => rw [restated, Node.ofExpr, Node.ofExpr, ih]
  | call method receiver arguments ihreceiver iharguments =>
      have harguments : Node.ofArguments (restatedArguments restate arguments) =
          Node.ofArguments arguments := by
        rw [restated_arguments_eq, Document.ofArguments_eq_map, Document.ofArguments_eq_map,
          List.map_map]
        exact List.map_congr_left iharguments
      rw [restated, Node.ofExpr, Node.ofExpr, ihreceiver, harguments]
  | conditional test ifTrue ifFalse ihtest ihtrue ihfalse =>
      rw [restated, Node.ofExpr, Node.ofExpr, ihtest, ihtrue, ihfalse]
  | lambda p body ih => rw [restated, Node.ofExpr, Node.ofExpr, ih]
  | init shape bindings ih =>
      have hbindings : Node.ofBindings (restatedBindings restate bindings) =
          Node.ofBindings bindings := by
        rw [restated_bindings_eq, Document.ofBindings_eq_map, Document.ofBindings_eq_map,
          List.map_map]
        exact List.map_congr_left fun b hb => Prod.ext rfl (ih b hb)
      rw [restated, Node.ofExpr, Node.ofExpr, hbindings]

/-! ## Sameness -/

/-- What is the same as a restated expression is the same as the expression, when this is so for
restated values. -/
theorem same_of_restated (h : ∀ value other, (restate value).same other → value.same other)
    {e other : Expr} (hsame : (e.restated restate).same other) : e.same other := by
  induction e generalizing other with
  | parameter p => exact hsame
  | member target field ih =>
      cases other with
      | member =>
          simp only [restated, same, Bool.and_eq_true] at hsame ⊢
          exact ⟨ih hsame.1, hsame.2⟩
      | _ => cases hsame
  | constant value type =>
      cases other with
      | constant =>
          simp only [restated, same, Bool.and_eq_true] at hsame ⊢
          exact ⟨h _ _ hsame.1, hsame.2⟩
      | _ => cases hsame
  | binary op left right ihleft ihright =>
      cases other with
      | binary =>
          simp only [restated, same, Bool.and_eq_true] at hsame ⊢
          exact ⟨⟨hsame.1.1, ihleft hsame.1.2⟩, ihright hsame.2⟩
      | _ => cases hsame
  | unary op operand ih =>
      cases other with
      | unary =>
          simp only [restated, same, Bool.and_eq_true] at hsame ⊢
          exact ⟨hsame.1, ih hsame.2⟩
      | _ => cases hsame
  | call method receiver arguments ihreceiver iharguments =>
      cases other with
      | call =>
          simp only [restated, same, restated_arguments_eq, Bool.and_eq_true, sameArguments_iff,
            List.forall₂_map_left_iff] at hsame ⊢
          refine ⟨⟨hsame.1.1, ihreceiver hsame.1.2⟩, ?_⟩
          exact forall₂_imp_of_mem hsame.2 fun e he _ => iharguments e he
      | _ => cases hsame
  | conditional test ifTrue ifFalse ihtest ihtrue ihfalse =>
      cases other with
      | conditional =>
          simp only [restated, same, Bool.and_eq_true] at hsame ⊢
          exact ⟨⟨ihtest hsame.1.1, ihtrue hsame.1.2⟩, ihfalse hsame.2⟩
      | _ => cases hsame
  | lambda p body ih =>
      cases other with
      | lambda =>
          simp only [restated, same, Bool.and_eq_true] at hsame ⊢
          exact ⟨hsame.1, ih hsame.2⟩
      | _ => cases hsame
  | init shape bindings ih =>
      cases other with
      | init =>
          simp only [restated, same, restated_bindings_eq, Bool.and_eq_true, sameBindings_iff,
            List.forall₂_map_left_iff] at hsame ⊢
          refine ⟨hsame.1, ?_⟩
          exact forall₂_imp_of_mem hsame.2 fun b hb _ hrelated => ⟨hrelated.1, ih b hb hrelated.2⟩
      | _ => cases hsame

end Expr

/-! ## Predicates -/

namespace Predicate

/-- `predicate.restated restate` is `predicate` with the value of each constant restated. -/
def restated (restate : Value → Value) (predicate : Predicate) : Predicate :=
  { predicate with body := predicate.body.restated restate }

variable {restate : Value → Value}

/-- A predicate is written down alike when restated values are. -/
theorem describe_restated (h : ∀ value, (restate value).toJson = value.toJson)
    (predicate : Predicate) : (predicate.restated restate).describe = predicate.describe := by
  rw [describe, describe, restated, Expr.ofExpr_restated h]
  rfl

/-- What is the same as a restated predicate is the same as the predicate, when this is so for
restated values. -/
theorem same_of_restated (h : ∀ value other, (restate value).same other → value.same other)
    {predicate other : Predicate} (hsame : (predicate.restated restate).same other) :
    predicate.same other := by
  rw [same, Bool.and_eq_true] at hsame ⊢
  exact ⟨hsame.1, Expr.same_of_restated h hsame.2⟩

end Predicate

end Reshape
