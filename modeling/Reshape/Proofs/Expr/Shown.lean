import Reshape.Expr.Text
import Reshape.Proofs.Expr.Parts

/-!
# What the text of an expression shows

The text of an expression shows neither which parameter of a name is meant nor any types, and of a
field neither the type nor the shape it is declared on. `Expr.shown` is an expression without all
that. It has the same text (`renderAt_shown`).
-/

namespace Reshape

/-- `Parameter.named name?` is a parameter of which no more is known than its name. -/
def Parameter.named (name : Option String) : Parameter := ⟨0, name, .any⟩

/-- `FieldDescriptor.named name` is a field of which no more is known than its name. -/
def FieldDescriptor.named (name : String) : FieldDescriptor := ⟨name, .any, ""⟩

namespace Expr

mutual
/-- `e.shown` is `e` without what its text does not show. -/
def shown : Expr → Expr
  | .parameter p => .parameter (.named p.name)
  | .member target field => .member target.shown (.named field.name)
  | .constant value _ => .constant value .any
  | .binary op left right => .binary op left.shown right.shown
  | .unary op operand => .unary op operand.shown
  | .call method receiver arguments => .call method receiver.shown (shownArguments arguments)
  | .conditional test ifTrue ifFalse => .conditional test.shown ifTrue.shown ifFalse.shown
  | .lambda p body => .lambda (.named p.name) body.shown
  | .init shape bindings => .init shape (shownBindings bindings)

/-- `shownArguments arguments` are arguments without what their texts do not show. -/
def shownArguments : List Expr → List Expr
  | [] => []
  | argument :: rest => argument.shown :: shownArguments rest

/-- `shownBindings bindings` are bindings without what their texts do not show. -/
def shownBindings : List (String × Expr) → List (String × Expr)
  | [] => []
  | (field, value) :: rest => (field, value.shown) :: shownBindings rest
end

/-- Arguments are shown one by one. -/
theorem shown_arguments_eq (arguments : List Expr) :
    shownArguments arguments = arguments.map shown := by
  induction arguments with
  | nil => rfl
  | cons argument rest ih => rw [shownArguments, ih, List.map_cons]

/-- Bindings keep their names and are shown one by one. -/
theorem shown_bindings_eq (bindings : List (String × Expr)) :
    shownBindings bindings = bindings.map fun b => (b.1, b.2.shown) := by
  induction bindings with
  | nil => rfl
  | cons binding rest ih => rw [shownBindings, ih, List.map_cons]

/-- An argument that others follow is rendered with a comma after it. -/
theorem renderArguments_cons (argument next : Expr) (rest : List Expr) :
    renderArguments (argument :: next :: rest) =
      renderAt conditionalPrecedence argument ++ ", " ++ renderArguments (next :: rest) := by
  rw [renderArguments]
  nofun

theorem renderBindings_cons (binding next : String × Expr) (rest : List (String × Expr)) :
    renderBindings (binding :: next :: rest) =
      binding.1 ++ " = " ++ renderAt conditionalPrecedence binding.2 ++ ", " ++
        renderBindings (next :: rest) := by
  rw [renderBindings]
  nofun

/-- What is shown of arguments reads like the arguments, if it does for each of them. -/
theorem renderArguments_shown {arguments : List Expr}
    (h : ∀ argument ∈ arguments, ∀ least, renderAt least argument.shown = renderAt least argument) :
    renderArguments (arguments.map shown) = renderArguments arguments := by
  induction arguments with
  | nil => rfl
  | cons argument rest ih =>
      rw [List.forall_mem_cons] at h
      have hrest := ih h.2
      cases rest with
      | nil => exact h.1 _
      | cons next others =>
          rw [List.map_cons] at hrest
          rw [List.map_cons, List.map_cons, renderArguments_cons, renderArguments_cons, h.1, hrest]

theorem renderBindings_shown {bindings : List (String × Expr)}
    (h : ∀ binding ∈ bindings, ∀ least,
      renderAt least binding.2.shown = renderAt least binding.2) :
    renderBindings (bindings.map fun b => (b.1, b.2.shown)) = renderBindings bindings := by
  induction bindings with
  | nil => rfl
  | cons binding rest ih =>
      rw [List.forall_mem_cons] at h
      have hrest := ih h.2
      cases rest with
      | nil => rw [List.map_cons, List.map_nil, renderBindings, renderBindings, h.1]
      | cons next others =>
          rw [List.map_cons] at hrest
          rw [List.map_cons, List.map_cons, renderBindings_cons, renderBindings_cons, h.1, hrest]

/-- What the text does not show makes no difference to the text. -/
theorem renderAt_shown (e : Expr) (least : Nat) : renderAt least e.shown = renderAt least e := by
  induction e generalizing least with
  | parameter p => rfl
  | member target field ih =>
      rw [shown, renderAt, renderAt, ih]
      rfl
  | constant value type => rfl
  | binary op left right ihleft ihright => rw [shown, renderAt, renderAt, ihleft, ihright]
  | unary op operand ih => rw [shown, renderAt, renderAt, ih]
  | call method receiver arguments ihreceiver iharguments =>
      rw [shown, shown_arguments_eq, renderAt, renderAt, ihreceiver, ihreceiver,
        renderArguments_shown iharguments]
  | conditional test ifTrue ifFalse ihtest ihtrue ihfalse =>
      rw [shown, renderAt, renderAt, ihtest, ihtrue, ihfalse]
  | lambda p body ih =>
      rw [shown, renderAt, renderAt, ih]
      rfl
  | init shape bindings ih =>
      rw [shown, shown_bindings_eq, renderAt, renderAt, renderBindings_shown ih]

end Expr

end Reshape
