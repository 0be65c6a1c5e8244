import Reshape.Proofs.Conversion.Binding
import Reshape.Proofs.Document.Represents

/-!
# References of counterparts

In a counterpart of a closed expression every reference is to the very parameter that binds it: to
the destination parameter, to a new one, or to that of a lambda that keeps its own
(`Converts.references`). The parameter that replaces a bound one stands in the place of its binder,
and as replacements are layered, nothing further inside has its identity.
-/

namespace Reshape.Conversion

variable {σ : Type} {task : Task σ} {lambdas : List (Parameter × Parameter)}
  {original p : Parameter}

/-- A parameter is free when it denotes none of the parameters around. -/
theorem referent_eq_free {root p : Parameter} {lambdas : List Parameter} :
    referent root lambdas p = .free ↔ ¬ ∃ q ∈ lambdas ++ [root], q.denotes p := by
  induction lambdas with
  | nil => simp [referent]
  | cons binder lambdas ih =>
      by_cases hdenotes : binder.denotes p
      · simp [referent, hdenotes]
      · have houtward : (referent root lambdas p).outward = .free ↔
            referent root lambdas p = .free := by
          cases referent root lambdas p <;> simp [Referent.outward]
        rw [referent, if_neg hdenotes, houtward, ih]
        simp [hdenotes]

/-- A bound parameter is replaced by the one that stands in the place of its binder. -/
theorem binder_replacement (h : referent original (lambdas.map Prod.fst) p ≠ .free) :
    (referent original (lambdas.map Prod.fst) p).binder? task.root (lambdas.map Prod.snd) =
      some (task.replacement (lambdas ++ [(original, task.root)]) p) := by
  induction lambdas with
  | nil =>
      by_cases hdenotes : original.denotes p
      · rw [List.nil_append, replacement_of_denotes hdenotes]
        simp [referent, hdenotes, Referent.binder?]
      · simp [referent, hdenotes] at h
  | cons lambda lambdas ih =>
      rw [List.map_cons, referent] at h
      rw [List.map_cons, List.map_cons, referent, List.cons_append]
      by_cases hdenotes : lambda.1.denotes p
      · rw [replacement_of_denotes hdenotes, if_pos hdenotes]
        rfl
      · rw [if_neg hdenotes] at h
        rw [replacement_of_not_denotes hdenotes, if_neg hdenotes, Referent.binder_outward]
        refine ih fun hfree => h ?_
        rw [hfree]
        rfl

/-- A bound parameter denotes after its replacement what it denoted before. -/
theorem Layered.referent_replacement {next : Nat} (h : Layered task.root lambdas next)
    (hp : p.identity < task.root.identity)
    (hbound : referent original (lambdas.map Prod.fst) p ≠ .free) :
    referent task.root (lambdas.map Prod.snd)
        (task.replacement (lambdas ++ [(original, task.root)]) p) =
      referent original (lambdas.map Prod.fst) p := by
  have hcorresponds : (task.rebinding original).Corresponds lambdas p
      (task.replacement (lambdas ++ [(original, task.root)]) p) := h.corresponds hp
  rw [Rebinding.Corresponds] at hcorresponds
  split at hcorresponds
  · rename_i hfree
    exact absurd hfree hbound
  · exact hcorresponds

/-- In a counterpart of a closed expression references are to the parameters that bind them. -/
theorem Converts.references {events : List ConversionEvent} {scopes : Scopes}
    {element : Option String} {next : Nat} {e e' : Expr}
    (h : Converts task events scopes element next e e')
    (hscopes : scopes = lambdas ++ [(original, task.root)])
    (he : e.OlderThan task.root.identity) (hlayered : Layered task.root lambdas next)
    (hclosed : e.ClosedIn (lambdas.map Prod.fst ++ [original])) :
    e'.ScopedIn (lambdas.map Prod.snd ++ [task.root]) := by
  induction e using Expr.binding_induction generalizing scopes element next e' lambdas with
  | parameter p =>
      subst hscopes
      have hbound : referent original (lambdas.map Prod.fst) p ≠ .free := fun hfree =>
        referent_eq_free.1 hfree (Expr.closedIn_parameter.1 hclosed)
      cases h
      refine .parameter ?_
      rw [find_denotes, hlayered.referent_replacement (he.own rfl) hbound,
        binder_replacement hbound]
  | lambda p body ih =>
      subst hscopes
      have holder : body.OlderThan task.root.identity := he.child (by simp [Expr.children])
      have hinner := Expr.closedIn_lambda.1 hclosed
      cases h with
      | lambda hq hbody =>
          exact .lambda (ih hbody (List.cons_append ..).symm holder
            (hlayered.inside (he.own rfl) hq) hinner)
  | parts e hown ih =>
      obtain ⟨hown', hparts⟩ := h.parts hown
      refine .parts hown' fun part' hpart' => ?_
      obtain ⟨part, hpart, _, hconverts, _⟩ := hparts part' hpart'
      exact ih part hpart hconverts hscopes (he.child hpart) hlayered
        ((Expr.closedIn_parts hown).1 hclosed part hpart)

/-- In what a closed predicate is converted to, references are to the parameters that bind them. -/
theorem convert_references {registry : Registry} {options : Options}
    {predicate converted : Predicate} {destination : String} {clock : Clock}
    {scope nextIdentity : Nat} {cache : Cache} {final : State Cache}
    (holder : predicate.OlderThan nextIdentity)
    (hclosed : predicate.body.ClosedIn [predicate.parameter]) (hmap : options.customMap = none)
    (hconvert : predicate.convert registry options clock scope destination nextIdentity cache =
      (.ok converted, final)) : converted.body.ScopedIn [converted.parameter] := by
  obtain ⟨_, _, hroot, hconverts⟩ := convert_converts hmap hconvert
  have hbody : predicate.body.OlderThan nextIdentity :=
    fun p hp => holder p (List.mem_cons_of_mem _ hp)
  rw [hroot] at hconverts ⊢
  have hlayered : Layered (rootParameter predicate destination nextIdentity) []
      (nextIdentity + 1) := .nil _ (Nat.lt_succ_self _)
  exact hconverts.references rfl hbody hlayered hclosed

end Reshape.Conversion
