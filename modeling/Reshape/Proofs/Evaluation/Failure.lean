import Reshape.Evaluation.Basic
import Reshape.Proofs.Expr.Parts

/-!
# Where evaluation fails

An operation on values fails for reasons of its own, and evaluation also fails where it looks up a
parameter or a field. `Guards` says what has to hold of environments and expressions so that these
two lookups only fail with errors that are allowed, and is kept from an expression to its parts and
from a call of `Any` to the body of its lambda on each item. `Guards.evaluate` follows the
evaluation once, for all properties of this kind.
-/

namespace Reshape

/-- `error.isLookup` says that an error comes of looking up a parameter or a field. -/
def EvalError.isLookup : EvalError → Bool
  | .undefinedParameter _ | .invalidProperty _ _ => true
  | _ => false

/-- What holds of an expression whenever it holds of all nodes of its parts, holds of all
expressions. -/
@[elab_as_elim]
theorem Expr.nodes_induction {motive : Expr → Prop}
    (step : ∀ e, (∀ part ∈ e.children, ∀ node ∈ part.nodes, motive node) → motive e) (e : Expr) :
    motive e := by
  have hnodes : ∀ node ∈ e.nodes, motive node := by
    induction e using Expr.children_induction with
    | step e ih => exact forall_nodes_iff.2 ⟨step e ih, ih⟩
  exact hnodes e e.self_mem_nodes

namespace Evaluation

variable {α β : Type} {allowed : EvalError → Prop} {x : Except EvalError α}

/-- `FailsOnly allowed x` says that `x`, if it fails, fails with an error that is allowed. -/
def FailsOnly (allowed : EvalError → Prop) (x : Except EvalError α) : Prop :=
  ∀ error, x = .error error → allowed error

/-- `Operates x` says that `x` does not fail for a lookup. -/
abbrev Operates (x : Except EvalError α) : Prop := FailsOnly (fun error => !error.isLookup) x

/-- What succeeds does not fail. -/
theorem failsOnly_ok (a : α) : FailsOnly allowed (.ok a) := fun _ h => nomatch h

theorem failsOnly_error {error : EvalError} (h : allowed error) :
    FailsOnly allowed (.error error : Except EvalError α) := by
  rintro _ ⟨⟩
  exact h

/-- What only fails with some errors only fails with more. -/
theorem FailsOnly.mono {allowed' : EvalError → Prop} (h : FailsOnly allowed x)
    (hmono : ∀ error, allowed error → allowed' error) : FailsOnly allowed' x :=
  fun error herror => hmono error (h error herror)

/-- A composed computation only fails with allowed errors when its first part does, and the second
does on what the first one gives. -/
theorem failsOnly_bind {next : α → Except EvalError β} (h : FailsOnly allowed x)
    (hnext : ∀ a, x = .ok a → FailsOnly allowed (next a)) : FailsOnly allowed (x >>= next) := by
  cases x with
  | error error =>
      rintro _ ⟨⟩
      exact h error rfl
  | ok a => exact hnext a rfl

/-- Applying a function to a result does not fail. -/
theorem failsOnly_map (h : FailsOnly allowed x) (f : α → β) : FailsOnly allowed (x.map f) := by
  cases x with
  | error error =>
      rintro _ ⟨⟩
      exact h error rfl
  | ok a => exact failsOnly_ok _

/-! ## Operations on values -/

attribute [local simp] FailsOnly EvalError.isLookup

/-- Taking a value for a boolean looks nothing up, and neither does any other operation on values.
-/
theorem booleanOf_operates (value : Value) : Operates (booleanOf value) := by
  cases value <;> simp [booleanOf]

theorem textOf_operates (value : Value) : Operates (textOf value) := by
  cases value <;> simp [textOf]

/-- Taking a value for a list fails for its kind only. -/
theorem itemsOf_operates (value : Value) : Operates (itemsOf value) := by
  cases value <;> simp [itemsOf]

theorem partOf_operates (value : Value) : Operates (partOf value) := by
  cases value <;> simp [partOf, textOf]

/-- An operand of a logical operator may be null or no boolean, which is no failure to look up. -/
theorem operandOf_operates (op : BinaryOp) (value : Value) : Operates (operandOf op value) := by
  cases value <;> simp [operandOf, booleanOf]

theorem isNullOrEmpty_operates (value : Value) : Operates (isNullOrEmpty value) := by
  unfold isNullOrEmpty
  split
  · exact failsOnly_ok _
  · exact failsOnly_map (textOf_operates _) _

theorem negate_operates (value : Value) : Operates (negate value) := by
  unfold negate
  split
  · simp
  · split <;> simp
  · simp
  · simp

/-- Unary operators may fail for their operand, but look nothing up. -/
theorem unaryResult_operates (op : UnaryOp) (value : Value) : Operates (unaryResult op value) := by
  unfold unaryResult
  split
  · exact failsOnly_ok _
  · exact failsOnly_map (booleanOf_operates _) _
  · exact negate_operates _

mutual

/-- Comparing values looks nothing up, inside lists as well. -/
theorem equal_operates (left right : Value) : Operates (equal left right) := by
  unfold equal
  split
  all_goals try exact failsOnly_ok _
  · split
    · exact equalItems_operates _ _
    · exact failsOnly_ok _
  · split <;> simp

theorem equalItems_operates (as bs : List Value) : Operates (equalItems as bs) := by
  unfold equalItems
  split
  · refine failsOnly_bind (equal_operates _ _) fun equal _ => ?_
    split
    · exact equalItems_operates _ _
    · exact failsOnly_ok _
  · exact failsOnly_ok _
end

/-- A comparison may fail for its operands, but looks nothing up. -/
theorem comparison_operates (op : BinaryOp) (left right : Value) :
    Operates (comparison op left right) := by
  unfold comparison
  split
  · exact equal_operates _ _
  · exact failsOnly_map (equal_operates _ _) _
  · split
    · unfold ordered
      split
      · exact failsOnly_ok _
      · split <;> simp
    · simp

/-- A result that does not fit is an error of the operation. -/
theorem fitted_operates (op : BinaryOp) (result : Option α) : Operates (fitted op result) := by
  cases result <;> simp [fitted]

/-- Arithmetic on integers fails for a result that does not fit or for a zero divisor only. -/
theorem integerResult_operates (op : BinaryOp) (a b : Int64) : Operates (integerResult op a b) := by
  unfold integerResult
  split
  · simp
  · cases op
    case add | subtract | multiply | divide | modulo => exact fitted_operates _ _
    all_goals simp [notArithmetic]

theorem decimalResult_operates (op : BinaryOp) (a b : Decimal) :
    Operates (decimalResult op a b) := by
  unfold decimalResult
  split
  · simp
  · cases op
    case add | subtract | multiply | divide | modulo => exact fitted_operates _ _
    all_goals simp [notArithmetic]

/-- Arithmetic may fail for its operands and its result, but looks nothing up. -/
theorem arithmetic_operates (op : BinaryOp) (left right : Value) :
    Operates (arithmetic op left right) := by
  unfold arithmetic
  split
  · exact failsOnly_ok _
  · split
    · exact failsOnly_ok _
    · split
      · exact failsOnly_map (integerResult_operates _ _ _) _
      · exact failsOnly_map (decimalResult_operates _ _ _) _
      · exact failsOnly_map (decimalResult_operates _ _ _) _
      · exact failsOnly_map (decimalResult_operates _ _ _) _
      · simp

/-- Looking for a value among items compares it with each, and so looks nothing up. -/
theorem isMember_operates (value : Value) (items : List Value) :
    Operates (isMember value items) := by
  induction items with
  | nil => exact failsOnly_ok _
  | cons item rest ih =>
      rw [isMember]
      refine failsOnly_bind (equal_operates _ _) fun equal _ => ?_
      split
      · exact failsOnly_ok _
      · exact ih

/-- A method with an argument may fail for its receiver or its argument, but looks nothing up. -/
theorem withArgument_operates (method : Method) (receiver argument : Value) :
    Operates (withArgument method receiver argument) := by
  unfold withArgument
  split
  · exact isMember_operates _ _
  · refine failsOnly_bind (textOf_operates _) fun text _ => ?_
    exact failsOnly_bind (partOf_operates _) fun part _ => failsOnly_ok _

/-! ## Expressions -/

/-- `Guards allowed holds` says that `holds`, of an environment and an expression, keeps evaluation
from failing with an error that is not allowed. Operations on values may fail as they like. -/
structure Guards (allowed : EvalError → Prop) (holds : Environment → Expr → Prop) : Prop where
  operation : ∀ error : EvalError, !error.isLookup → allowed error
  parameter : ∀ {environment p}, holds environment (.parameter p) →
    FailsOnly allowed (lookup environment p)
  member : ∀ {environment target field value}, holds environment (.member target field) →
    evaluate environment target = .ok value →
    FailsOnly allowed (fieldOf (.member target field) field.name value)
  part : ∀ {environment e part}, holds environment e → e.own? = none → part ∈ e.children →
    holds environment part
  item : ∀ {environment receiver p body rest items},
    holds environment (.call .any receiver (.lambda p body :: rest)) →
    evaluate environment receiver = .ok (.list items) → ∀ item ∈ items,
      holds ((p, item) :: environment) body

/-- A test of items only fails with allowed errors when it does on each item. -/
theorem someItem_failsOnly {test : Value → Except EvalError Value} {items : List Value}
    (hbooleanOf : ∀ value, FailsOnly allowed (booleanOf value))
    (h : ∀ item ∈ items, FailsOnly allowed (test item)) :
    FailsOnly allowed (someItem test items) := by
  induction items with
  | nil => exact failsOnly_ok _
  | cons item rest ih =>
      rw [List.forall_mem_cons] at h
      rw [someItem]
      refine failsOnly_bind h.1 fun value _ => ?_
      refine failsOnly_bind (hbooleanOf _) fun passes _ => ?_
      split
      · exact failsOnly_ok _
      · exact ih h.2

/-- Bindings only fail with allowed errors when the bound expressions do. -/
theorem evaluateBindings_failsOnly {environment : Environment} {bindings : List (String × Expr)}
    (h : ∀ b ∈ bindings, FailsOnly allowed (evaluate environment b.2))
    (fields : List (String × Value)) :
    FailsOnly allowed (evaluateBindings environment fields bindings) := by
  induction bindings generalizing fields with
  | nil => exact failsOnly_ok _
  | cons binding rest ih =>
      rw [List.forall_mem_cons] at h
      rw [evaluateBindings]
      exact failsOnly_bind h.1 fun value _ => ih h.2 _

namespace Guards

variable {holds : Environment → Expr → Prop} {environment : Environment}

/-- What does not fail for a lookup only fails with allowed errors. -/
theorem operates (h : Guards allowed holds) (hx : Operates x) : FailsOnly allowed x :=
  hx.mono h.operation

/-- A binary operation only fails with allowed errors when its operands do. -/
theorem evaluate_binary (h : Guards allowed holds) {left right : Expr}
    (hleft : FailsOnly allowed (evaluate environment left))
    (hright : FailsOnly allowed (evaluate environment right)) (op : BinaryOp) :
    FailsOnly allowed (Evaluation.evaluate environment (.binary op left right)) := by
  have hoperand := fun op value => h.operates (operandOf_operates op value)
  cases op
  case and =>
    simp only [Evaluation.evaluate]
    refine failsOnly_bind hleft fun value _ => failsOnly_bind (hoperand _ _) fun holds _ => ?_
    split
    · refine failsOnly_bind hright fun value _ => ?_
      exact failsOnly_bind (hoperand _ _) fun _ _ => failsOnly_ok _
    · exact failsOnly_ok _
  case or =>
    simp only [Evaluation.evaluate]
    refine failsOnly_bind hleft fun value _ => failsOnly_bind (hoperand _ _) fun holds _ => ?_
    split
    · exact failsOnly_ok _
    · refine failsOnly_bind hright fun value _ => ?_
      exact failsOnly_bind (hoperand _ _) fun _ _ => failsOnly_ok _
  case coalesce =>
    simp only [Evaluation.evaluate]
    refine failsOnly_bind hleft fun value _ => ?_
    split
    · exact hright
    · exact failsOnly_ok _
  all_goals
    simp only [Evaluation.evaluate]
    refine failsOnly_bind hleft fun value _ => failsOnly_bind hright fun value' _ => ?_
    split
    · exact failsOnly_bind (h.operates (comparison_operates _ _ _)) fun _ _ => failsOnly_ok _
    · exact h.operates (arithmetic_operates _ _ _)

/-- A call only fails with allowed errors when the receiver and the arguments do, and a lambda in
the first place does on each item of the receiver. -/
theorem evaluate_call (h : Guards allowed holds) {method : Method} {receiver : Expr}
    {arguments : List Expr} (hreceiver : FailsOnly allowed (evaluate environment receiver))
    (harguments : ∀ e ∈ arguments, FailsOnly allowed (evaluate environment e))
    (hlambda : ∀ p body rest items, method = .any → arguments = .lambda p body :: rest →
      evaluate environment receiver = .ok (.list items) → ∀ item ∈ items,
        FailsOnly allowed (evaluate ((p, item) :: environment) body)) :
    FailsOnly allowed (Evaluation.evaluate environment (.call method receiver arguments)) := by
  have hitems := fun value => h.operates (itemsOf_operates value)
  rw [Evaluation.evaluate]
  split
  · exact failsOnly_error (h.operation _ rfl)
  refine failsOnly_bind hreceiver fun value hvalue => ?_
  split
  · exact failsOnly_bind (h.operates (isNullOrEmpty_operates _)) fun _ _ => failsOnly_ok _
  split
  · exact failsOnly_error (h.operation _ rfl)
  split
  · exact failsOnly_bind (hitems _) fun _ _ => failsOnly_ok _
  · rename_i p body rest _ _
    refine failsOnly_bind (hitems _) fun items hlist => ?_
    refine failsOnly_bind ?_ fun _ _ => failsOnly_ok _
    have hreceived : evaluate environment receiver = .ok (.list items) := by
      cases value <;> cases hlist
      exact hvalue
    exact someItem_failsOnly (fun value => h.operates (booleanOf_operates value))
      (hlambda p body rest items rfl rfl hreceived)
  · refine failsOnly_bind (hitems _) fun items _ => ?_
    exact failsOnly_error (h.operation _ rfl)
  · refine failsOnly_bind (harguments _ List.mem_cons_self) fun argument _ => ?_
    exact failsOnly_bind (h.operates (withArgument_operates _ _ _)) fun _ _ => failsOnly_ok _
  · exact failsOnly_bind (h.operates (textOf_operates _)) fun _ _ => failsOnly_ok _

/-- Under a guard, evaluation only fails with allowed errors. -/
theorem evaluate (h : Guards allowed holds) {e : Expr} (he : holds environment e) :
    FailsOnly allowed (evaluate environment e) := by
  -- the body of a lambda is a part of an argument, so the induction is over the nodes of parts
  induction e using Expr.nodes_induction generalizing environment with
  | step e ih =>
      have hpart : e.own? = none → ∀ part ∈ e.children,
          FailsOnly allowed (Evaluation.evaluate environment part) :=
        fun hown part hmem => ih part hmem part part.self_mem_nodes (h.part he hown hmem)
      cases e with
      | parameter p => exact h.parameter he
      | member target field =>
          rw [Evaluation.evaluate]
          exact failsOnly_bind (hpart rfl target (by simp [Expr.children])) fun value hvalue =>
            h.member he hvalue
      | constant value type => exact failsOnly_ok _
      | binary op left right =>
          exact h.evaluate_binary (hpart rfl left (by simp [Expr.children]))
            (hpart rfl right (by simp [Expr.children])) op
      | unary op operand =>
          rw [Evaluation.evaluate]
          exact failsOnly_bind (hpart rfl operand (by simp [Expr.children])) fun value _ =>
            h.operates (unaryResult_operates _ _)
      | call method receiver arguments =>
          refine h.evaluate_call (hpart rfl receiver (by simp [Expr.children]))
            (fun e hmem => hpart rfl e (by simp [Expr.children, hmem])) ?_
          rintro p body rest items rfl rfl hreceiver item hitem
          have hbody : body ∈ (Expr.lambda p body).nodes := by
            rw [Expr.nodes]
            exact List.mem_cons_of_mem _ body.self_mem_nodes
          exact ih (.lambda p body) (by simp [Expr.children]) body hbody
            (h.item he hreceiver item hitem)
      | conditional test ifTrue ifFalse =>
          rw [Evaluation.evaluate]
          refine failsOnly_bind (hpart rfl test (by simp [Expr.children])) fun value _ => ?_
          refine failsOnly_bind (h.operates (booleanOf_operates _)) fun holds _ => ?_
          split
          · exact hpart rfl ifTrue (by simp [Expr.children])
          · exact hpart rfl ifFalse (by simp [Expr.children])
      | lambda p body => exact failsOnly_error (h.operation _ rfl)
      | init shape bindings =>
          rw [Evaluation.evaluate]
          have hbindings := evaluateBindings_failsOnly
            (fun b hb => hpart rfl b.2 (List.mem_map_of_mem hb)) []
          exact failsOnly_bind hbindings fun fields _ => failsOnly_ok _

/-- Under a guard, a test only fails with allowed errors. -/
theorem test (h : Guards allowed holds) {predicate : Predicate} {input : Value}
    (hbody : holds [(predicate.parameter, input)] predicate.body) :
    FailsOnly allowed (predicate.test input) := by
  have hadmits : Operates (predicate.admits input) := by
    unfold Predicate.admits
    split
    · split <;> simp
    · exact failsOnly_ok _
  rw [Predicate.test, Predicate.result]
  refine failsOnly_bind (failsOnly_bind (h.operates hadmits) fun _ _ => ?_) fun value _ => ?_
  · exact h.evaluate hbody
  · exact h.operates (booleanOf_operates _)

end Guards

end Evaluation

end Reshape
