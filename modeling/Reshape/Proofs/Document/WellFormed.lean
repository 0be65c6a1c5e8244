import Reshape.Proofs.Conversion.Scope
import Reshape.Proofs.Evaluation.Defined

/-!
# Well-formed predicates

In a well-formed predicate every reference is to the predicate's own parameter or to that of a
lambda around, every access is to the field that the registry finds on the static type of its
target, and no test fails for a parameter without a value. Binding a document gives a well-formed
predicate, and so does converting that: `bound_well_formed`.

Binding finds parameters by name, a conversion replaces them by identity, and evaluation looks them
up by identity at run time. What ties the three together is what a reference denotes.
-/

namespace Reshape

open Conversion

namespace Expr

/-- `e.Resolved registry` says that every access in `e` is to the field that the registry has under
its name on the static type of the target. -/
def Resolved (registry : Registry) (e : Expr) : Prop :=
  ∀ target field, .member target field ∈ e.nodes →
    ∃ shape, target.shape? = some shape ∧ registry.member? shape field.name = some field

end Expr

/-- A field that is found under a name has that name. -/
theorem Registry.name_of_member? {registry : Registry} {shape name : String}
    {field : FieldDescriptor} (h : registry.member? shape name = some field) :
    registry.member? shape field.name = some field := by
  obtain ⟨_, _, _, _, hname⟩ := mem_of_member? h
  rw [hname, h]

/-- `predicate.WellFormed registry` says that all references are bound, that all fields are those of
the registry, and that tests do not fail for a parameter without a value. -/
structure Predicate.WellFormed (registry : Registry) (predicate : Predicate) : Prop where
  closed : predicate.body.ClosedIn [predicate.parameter]
  resolved : predicate.body.Resolved registry
  defined : ∀ input, Evaluation.Defined (predicate.test input)

/-! ## Bound predicates -/

namespace Document

variable {registry : Registry} {root : Parameter} {lambdas : List Parameter} {node : Node}
  {e : Expr}

/-- What a node stands for accesses only fields that the registry finds. -/
theorem Represents.resolved (h : Represents registry root lambdas node e) :
    e.Resolved registry := by
  intro target field hnode
  obtain ⟨_, _, hrepresents, _⟩ := h.nodes _ hnode
  cases hrepresents with
  | member _ hshape hfield => exact ⟨_, hshape, Registry.name_of_member? hfield⟩

end Document

/-! ## Converted predicates -/

namespace Conversion

variable {σ : Type} {task : Task σ} {scopes : Scopes} {element : Option String} {e e' : Expr}

/-- A counterpart only accesses fields that the registry finds, whatever the original accesses. -/
theorem Converts.resolved {events : List ConversionEvent} {next : Nat}
    (h : Converts task events scopes element next e e') : e'.Resolved task.registry := by
  intro target' field' hnode
  obtain ⟨_, _, _, _, _, _, _, hconverts⟩ := h.nodes _ hnode
  cases hconverts with
  | member _ _ hshape hfound => exact ⟨_, hshape, Registry.name_of_member? hfound⟩

variable {registry : Registry} {options : Options} {predicate converted : Predicate}
  {destination : String} {clock : Clock} {scope nextIdentity : Nat} {cache : Cache}
  {final : State Cache}

/-- A closed predicate is converted into a well-formed one. -/
theorem convert_well_formed (holder : predicate.OlderThan nextIdentity)
    (hclosed : predicate.body.ClosedIn [predicate.parameter]) (hmap : options.customMap = none)
    (hconvert : predicate.convert registry options clock scope destination nextIdentity cache =
      (.ok converted, final)) : converted.WellFormed registry := by
  have hscoped := convert_references holder hclosed hmap hconvert
  obtain ⟨_, _, _, hconverts⟩ := convert_converts hmap hconvert
  exact ⟨hscoped.closedIn, hconverts.resolved, Predicate.test_defined hscoped.closedIn⟩

end Conversion

/-! ## The whole way -/

open Document in
/-- A document that can be bound stands for a well-formed predicate, in which every reference is to
the innermost parameter that has its name; and whatever this predicate is converted to is
well-formed as well. -/
theorem bound_well_formed {registry : Registry} {document : Document} {identity next : Nat}
    {predicate : Predicate} (hbind : document.bind registry identity = .ok (predicate, next)) :
    Represents registry predicate.parameter [] document.body predicate.body ∧
      predicate.WellFormed registry ∧
      ∀ options clock scope destination nextIdentity cache converted final,
        next ≤ nextIdentity → options.customMap = none →
          predicate.convert registry options clock scope destination nextIdentity cache =
            (.ok converted, final) → converted.WellFormed registry := by
  obtain ⟨hrepresents, holder⟩ := bind_represents hbind
  have hclosed : predicate.body.ClosedIn [predicate.parameter] := hrepresents.references.closedIn
  refine ⟨hrepresents, ⟨hclosed, hrepresents.resolved, Predicate.test_defined hclosed⟩, ?_⟩
  intro options clock scope destination nextIdentity cache converted final hnext hmap hconvert
  exact Conversion.convert_well_formed
    (fun p hp => Nat.lt_of_lt_of_le (holder p hp) hnext) hclosed hmap hconvert

/-- The document of noted orders with a fragile or heavy part is bound to a well-formed predicate,
whose counterpart over views, where the note of an order is a default, is well-formed as well. -/
theorem sample_bound_well_formed :
    Sample.document.bind Sample.registry 0 = .ok (Sample.documented, 2) ∧
      Sample.documented.WellFormed Sample.registry ∧
      ∃ converted, (Sample.documented.convert Sample.registry ⟨none, none, .returnDefault⟩ id 0
          "View" 2 (.empty .unbounded)).1 = .ok converted ∧
        converted.WellFormed Sample.registry := by
  obtain ⟨_, hbound, hconverts⟩ := bound_well_formed Sample.bind_document
  refine ⟨Sample.bind_document, hbound, _, rfl, ?_⟩
  exact hconverts ⟨none, none, .returnDefault⟩ id 0 "View" 2 (.empty .unbounded) _ _
    (Nat.le_refl 2) rfl rfl

end Reshape
