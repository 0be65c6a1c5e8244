import Reshape.Proofs.Evaluation.Failure

/-!
# Evaluation of closed expressions

Evaluation fails for a parameter without a value only where it looks one up. So an expression whose
references are all to parameters that the environment binds, or to those of its own lambdas, never
fails for that reason (`closedIn_guards`), and neither does a test (`Predicate.test_defined`). The
body of a lambda is evaluated by the call around it, in an environment that binds the lambda's
parameter as well, and so is closed in what is bound there.
-/

namespace Reshape

namespace Evaluation

variable {α : Type}

/-- `Defined x` says that `x` did not fail for a parameter without a value. -/
def Defined (x : Except EvalError α) : Prop := ∀ name, x ≠ .error (.undefinedParameter name)

theorem FailsOnly.defined {x : Except EvalError α}
    (h : FailsOnly (fun error => ∀ name, error ≠ .undefinedParameter name) x) : Defined x :=
  fun name hname => h _ hname name rfl

/-- A parameter that the environment binds has a value. -/
theorem lookup_failsOnly {allowed : EvalError → Prop} {environment : Environment} {p : Parameter}
    (h : ∃ q ∈ environment.map Prod.fst, q.denotes p) :
    FailsOnly allowed (lookup environment p) := by
  obtain ⟨q, hq, hdenotes⟩ := h
  obtain ⟨binding, hbinding, rfl⟩ := List.mem_map.1 hq
  have hfound : (environment.find? fun binding => binding.1.denotes p).isSome :=
    List.find?_isSome.2 ⟨binding, hbinding, hdenotes⟩
  obtain ⟨found, hfound⟩ := Option.isSome_iff_exists.1 hfound
  rw [lookup, hfound]
  exact failsOnly_ok _

/-- An access fails for many reasons, but not for a parameter without a value. -/
theorem fieldOf_failsOnly (e : Expr) (name : String) (value : Value) :
    FailsOnly (fun error => ∀ name, error ≠ .undefinedParameter name) (fieldOf e name value) := by
  unfold fieldOf
  split
  · exact failsOnly_error (by simp)
  · split
    · exact failsOnly_ok _
    · exact failsOnly_error (by simp)
  · exact failsOnly_error (by simp)

/-- An expression that is closed in what the environment binds meets no parameter without a
value. -/
theorem closedIn_guards : Guards (fun error => ∀ name, error ≠ .undefinedParameter name)
    fun environment e => e.ClosedIn (environment.map Prod.fst) where
  operation error hoperation name heq := by
    subst heq
    cases hoperation
  parameter h := lookup_failsOnly (Expr.closedIn_parameter.1 h)
  member _ _ := fieldOf_failsOnly _ _ _
  part h hown hpart := (Expr.closedIn_parts hown).1 h _ hpart
  item h _ _ _ :=
    Expr.closedIn_lambda.1 ((Expr.closedIn_parts rfl).1 h _ (by simp [Expr.children]))

end Evaluation

open Evaluation in
/-- The test of a predicate that refers to nothing but its own parameter and those of its lambdas
never fails for a parameter without a value. -/
theorem Predicate.test_defined {predicate : Predicate}
    (h : predicate.body.ClosedIn [predicate.parameter]) (input : Value) :
    Defined (predicate.test input) := by
  have hbody : predicate.body.ClosedIn ([(predicate.parameter, input)].map Prod.fst) := h
  exact (closedIn_guards.test hbody).defined

end Reshape
