import Mathlib.Data.List.Forall2
import Reshape.Evaluation.Basic

/-!
# Outcomes of evaluations

Two evaluations have the same outcome when both give one value, or both fail with one variant of
error, whatever its texts. Evaluation respects this: an expression has the same outcome as another
of its form when their parts have, each in its environment. There is one lemma for each form whose
value depends on parts. Arguments of calls are compared by `Alike`, as `Any` looks into a lambda,
which has no value of its own.
-/

namespace Reshape

/-- An `EvalError.Variant` is the variant of an error, without its texts. -/
inductive EvalError.Variant where
  | typeMismatch
  | invalidOperand
  | nullReference
  | argumentNull
  | divisionByZero
  | overflow
  | undefinedParameter
  | invalidProperty
  | unsupported
deriving DecidableEq

/-- `error.variant` is the variant of an error. -/
def EvalError.variant : EvalError → EvalError.Variant
  | .typeMismatch _ _ => .typeMismatch
  | .invalidOperand _ _ => .invalidOperand
  | .nullReference _ => .nullReference
  | .argumentNull _ => .argumentNull
  | .divisionByZero => .divisionByZero
  | .overflow _ => .overflow
  | .undefinedParameter _ => .undefinedParameter
  | .invalidProperty _ _ => .invalidProperty
  | .unsupported _ => .unsupported

/-- `e.isLambda` says `e` is a lambda. -/
def Expr.isLambda : Expr → Bool
  | .lambda _ _ => true
  | _ => false

namespace Evaluation

variable {α β : Type}

/-- `SameOutcome x y` says that `x` and `y` are the same value, or errors of the same variant. -/
inductive SameOutcome : Except EvalError α → Except EvalError α → Prop where
  | value (a) : SameOutcome (.ok a) (.ok a)
  | failure (error error') :
      error.variant = error'.variant → SameOutcome (.error error) (.error error')

namespace SameOutcome

theorem refl (x : Except EvalError α) : SameOutcome x x := by
  cases x with
  | error error => exact .failure _ _ rfl
  | ok a => exact .value a

/-- What goes on alike from each value has the same outcome after the same outcome. -/
theorem bind {x y : Except EvalError α} {f g : α → Except EvalError β} (h : SameOutcome x y)
    (hnext : ∀ a, SameOutcome (f a) (g a)) : SameOutcome (x >>= f) (y >>= g) := by
  cases h with
  | value a => exact hnext a
  | failure error error' hvariant => exact .failure _ _ hvariant

/-- What goes on from a value in one way has the same outcome after the same outcome. -/
theorem bind_same {x y : Except EvalError α} (h : SameOutcome x y)
    (next : α → Except EvalError β) : SameOutcome (x >>= next) (y >>= next) :=
  h.bind fun a => .refl (next a)

end SameOutcome

/-- Some item passes a test or none does, or the tests fail alike. -/
theorem someItem_congr {test test' : Value → Except EvalError Value}
    (h : ∀ item, SameOutcome (test item) (test' item)) (items : List Value) :
    SameOutcome (someItem test items) (someItem test' items) := by
  induction items with
  | nil => exact .refl _
  | cons item rest ih =>
      rw [someItem, someItem]
      refine (h item).bind fun value => (SameOutcome.refl _).bind fun passes => ?_
      cases passes with
      | false => exact ih
      | true => exact .refl _

attribute [local simp] evaluate evaluateBindings

variable {environment environment' : Environment}

/-- A field of one value is the same, whatever the access that asks for it. -/
theorem fieldOf_congr {e e' : Expr} {name : String} (value : Value) :
    SameOutcome (fieldOf e name value) (fieldOf e' name value) := by
  cases value with
  | null => exact .failure _ _ rfl
  | record shape fields => exact .refl _
  | _ => exact .refl _

/-- An access to a field of a target that has a value. -/
theorem evaluate_member_of_ok {target : Expr} {value : Value}
    (h : evaluate environment target = .ok value) (field : FieldDescriptor) :
    evaluate environment (.member target field) =
      fieldOf (.member target field) field.name value := by
  rw [evaluate, h]
  rfl

/-- Fields of two records are the same when the records hold the same under their names. -/
theorem fieldOf_record {e e' : Expr} {name name' shape shape' : String}
    {fields fields' : List (String × Value)} (h : fields'.lookup name' = fields.lookup name) :
    SameOutcome (fieldOf e name (.record shape fields))
      (fieldOf e' name' (.record shape' fields')) := by
  rw [fieldOf, fieldOf, h]
  cases fields.lookup name with
  | none => exact .failure _ _ rfl
  | some value => exact .value value

/-- Accesses to fields of one name have the same outcome when their targets have. -/
theorem evaluate_member {target target' : Expr} {field field' : FieldDescriptor}
    (hname : field.name = field'.name)
    (h : SameOutcome (evaluate environment target) (evaluate environment' target')) :
    SameOutcome (evaluate environment (.member target field))
      (evaluate environment' (.member target' field')) := by
  rw [evaluate, evaluate, hname]
  exact h.bind fieldOf_congr

/-- Binary operations have the same outcome when their operands do. -/
theorem evaluate_binary {op : BinaryOp} {left left' right right' : Expr}
    (hleft : SameOutcome (evaluate environment left) (evaluate environment' left'))
    (hright : SameOutcome (evaluate environment right) (evaluate environment' right')) :
    SameOutcome (evaluate environment (.binary op left right))
      (evaluate environment' (.binary op left' right')) := by
  cases op
  case and =>
    simp only [evaluate]
    refine hleft.bind fun value => (SameOutcome.refl _).bind fun holds => ?_
    cases holds with
    | false => exact .refl _
    | true => exact hright.bind_same _
  case or =>
    simp only [evaluate]
    refine hleft.bind fun value => (SameOutcome.refl _).bind fun holds => ?_
    cases holds with
    | false => exact hright.bind_same _
    | true => exact .refl _
  case coalesce =>
    simp only [evaluate]
    refine hleft.bind fun value => ?_
    cases value with
    | null => exact hright
    | _ => exact .refl _
  all_goals
    simp only [evaluate]
    exact hleft.bind fun value => hright.bind_same _

theorem evaluate_unary {op : UnaryOp} {operand operand' : Expr}
    (h : SameOutcome (evaluate environment operand) (evaluate environment' operand')) :
    SameOutcome (evaluate environment (.unary op operand))
      (evaluate environment' (.unary op operand')) := by
  rw [evaluate, evaluate]
  exact h.bind_same _

/-- Conditionals have the same outcome when their parts do. -/
theorem evaluate_conditional {test test' ifTrue ifTrue' ifFalse ifFalse' : Expr}
    (htest : SameOutcome (evaluate environment test) (evaluate environment' test'))
    (htrue : SameOutcome (evaluate environment ifTrue) (evaluate environment' ifTrue'))
    (hfalse : SameOutcome (evaluate environment ifFalse) (evaluate environment' ifFalse')) :
    SameOutcome (evaluate environment (.conditional test ifTrue ifFalse))
      (evaluate environment' (.conditional test' ifTrue' ifFalse')) := by
  rw [evaluate, evaluate]
  refine htest.bind fun value => (SameOutcome.refl _).bind fun holds => ?_
  cases holds with
  | false => exact hfalse
  | true => exact htrue

/-- Bindings of the same names, whose values have the same outcomes, set the same fields. -/
theorem evaluateBindings_congr {bindings bindings' : List (String × Expr)}
    (h : List.Forall₂ (fun b b' => b.1 = b'.1 ∧
      SameOutcome (evaluate environment b.2) (evaluate environment' b'.2)) bindings bindings')
    (fields : List (String × Value)) :
    SameOutcome (evaluateBindings environment fields bindings)
      (evaluateBindings environment' fields bindings') := by
  induction h generalizing fields with
  | nil => exact .refl _
  | @cons b b' rest rest' hb _ ih =>
      rw [evaluateBindings, evaluateBindings, hb.1]
      exact hb.2.bind fun value => ih _

/-- Initializers have the same outcome when what they bind does. -/
theorem evaluate_init {shape : String} {bindings bindings' : List (String × Expr)}
    (h : List.Forall₂ (fun b b' => b.1 = b'.1 ∧
      SameOutcome (evaluate environment b.2) (evaluate environment' b'.2)) bindings bindings') :
    SameOutcome (evaluate environment (.init shape bindings))
      (evaluate environment' (.init shape bindings')) := by
  rw [evaluate, evaluate]
  exact (evaluateBindings_congr h []).bind_same _

/-! ## Arguments of calls -/

/-- `Alike environment environment' e e'` says that two expressions may stand for one another as
arguments: they have the same outcome, or they are lambdas over one parameter whose bodies have,
whatever the item. -/
inductive Alike (environment environment' : Environment) : Expr → Expr → Prop where
  | lambda {p body body'} :
      (∀ item, SameOutcome (evaluate ((p, item) :: environment) body)
        (evaluate ((p, item) :: environment') body')) →
      Alike environment environment' (.lambda p body) (.lambda p body')
  | other {e e'} :
      e.isLambda = false → e'.isLambda = false →
      SameOutcome (evaluate environment e) (evaluate environment' e') →
      Alike environment environment' e e'

/-- What is alike has the same outcome. -/
theorem Alike.sameOutcome {e e' : Expr} (h : Alike environment environment' e e') :
    SameOutcome (evaluate environment e) (evaluate environment' e') := by
  cases h with
  | lambda =>
      rw [evaluate, evaluate]
      exact .failure _ _ rfl
  | other _ _ h => exact h

/-- Calls have the same outcome when their receivers do and their arguments are alike. -/
theorem evaluate_call {method : Method} {receiver receiver' : Expr}
    {arguments arguments' : List Expr}
    (hreceiver : SameOutcome (evaluate environment receiver) (evaluate environment' receiver'))
    (harguments : List.Forall₂ (Alike environment environment') arguments arguments') :
    SameOutcome (evaluate environment (.call method receiver arguments))
      (evaluate environment' (.call method receiver' arguments')) := by
  rw [evaluate, evaluate, harguments.length_eq]
  split
  · exact .refl _
  refine hreceiver.bind fun value => ?_
  split
  · exact .refl _
  split
  · exact .failure _ _ rfl
  cases harguments with
  | nil => cases method <;> exact .refl _
  | @cons e e' _ _ h _ =>
      cases h with
      | lambda hbody =>
          cases method
          case any =>
            refine (SameOutcome.refl _).bind fun items => ?_
            exact (someItem_congr hbody items).bind_same _
          all_goals exact .failure _ _ rfl
      | other he he' h =>
          cases method
          case any =>
            -- `Any` only asks whether its argument is a lambda, and not for its value
            cases e with
            | lambda => cases he
            | _ =>
                cases e' with
                | lambda => cases he'
                | _ => exact .refl _
          all_goals exact h.bind_same _

end Evaluation

end Reshape
