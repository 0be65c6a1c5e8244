import Reshape.Proofs.Evaluation.Access

/-!
# Accesses of bound predicates

A predicate that a document is bound to is typed, as long as it reads paths and its lambdas range
over the elements of what `Any` is called on. So no test on a record that was read for its shape
accesses a property that is not there: `bound_test_accessible`.

Binding does not check what a lambda is given to, so its parameter is asked to have the element type
here. Everything else comes of binding: fields are those found on static types, references are to
the innermost parameter, and constants are read under their types.
-/

namespace Reshape

/-- The type of plain JSON mentions no shape. -/
theorem Value.mentioned_of_ofPlainJson (json : Json) :
    (ofPlainJson json).inferredType.mentioned? = none := by
  match json with
  | .null | .bool _ | .string _ | .object _ | .array [] => rfl
  | .number number =>
      rw [ofPlainJson]
      split
      · rfl
      · split <;> rfl
  | .array (item :: rest) => exact mentioned_of_ofPlainJson item

namespace Document

variable {registry : Registry}

/-- The constant of a document fits its type. -/
theorem bindConstant_fits {json : Json} {text : Option String} {value : Value} {type : FieldType}
    (h : bindConstant json text = .ok (.constant value type)) : registry.Fits type value := by
  cases text with
  | none =>
      obtain ⟨found, hfound, heq⟩ := bindConstant_none.1 h
      cases heq
      refine Or.inl ?_
      rw [readConstant_eq_ok, Value.ofJson?] at hfound
      split at hfound
      · cases hfound
        rfl
      · cases hfound
        exact Value.mentioned_of_ofPlainJson json
  | some text =>
      obtain ⟨_, _, _, hfound, heq⟩ := bindConstant_some.1 h
      cases heq
      exact Or.inr (Registry.ofJson_conforms (readConstant_eq_ok.1 hfound))

/-- The constants of what a document stands for fit their types. -/
theorem Represents.constant_fits {root : Parameter} {lambdas : List Parameter} {node : Node}
    {e : Expr} (h : Represents registry root lambdas node e) {value : Value} {type : FieldType}
    (hconstant : .constant value type ∈ e.nodes) : registry.Fits type value := by
  obtain ⟨_, _, hrepresents, _⟩ := h.nodes _ hconstant
  cases hrepresents with
  | constant hbind => exact bindConstant_fits hbind

end Document

open Document in
/-- No test of a bound predicate, on a record that was read for its shape, fails for a property that
is not there. In the predicate accesses are to be made on parameters and other accesses, and lambdas
that `Any` takes on one of these or a constant are to have the type of the elements. -/
theorem bound_test_accessible {registry : Registry} {document : Document} {identity next : Nat}
    {predicate : Predicate} (hbind : document.bind registry identity = .ok (predicate, next))
    (hpaths : predicate.body.ReadsPaths)
    (hlambdas : predicate.body.LambdasOver fun receiver p =>
      receiver.resultType.element? = some p.type)
    {shape : String} (hshape : predicate.shape? = some shape) {json : Json} {record : Value}
    (hrecord : registry.recordOfJson shape json = .ok record) :
    Evaluation.Accessible (predicate.test record) := by
  obtain ⟨_, hparameter, _⟩ := bind_eq_ok.1 hbind
  obtain ⟨hrepresents, _⟩ := bind_represents hbind
  have htyped : predicate.body.Typed registry := {
    paths := hpaths
    resolved := hrepresents.resolved
    constant := fun value type hconstant => hrepresents.constant_fits hconstant
    lambda := fun call hcall _ => Or.inl (Or.inr (Or.inl (hlambdas call hcall))) }
  -- the parameter is over the shape of the document, which is the one that the record was read for
  have htype : predicate.parameter.type = .shape shape := by
    rw [Predicate.shape?, hparameter] at hshape
    rw [hparameter, Option.some.inj hshape]
  have hvalue : registry.Conforms predicate.parameter.type record := by
    rw [htype]
    exact Registry.recordOfJson_conforms hrecord
  exact Evaluation.test_accessible htyped hrepresents.references hvalue

/-- An order read from JSON has all fields that the predicate of noted orders accesses, those of its
parts included, also where the JSON leaves them out. -/
theorem sample_bound_accessible :
    Sample.document.bind Sample.registry 0 = .ok (Sample.documented, 2) ∧
      Sample.registry.recordOfJson "Order" Sample.orderJson = .ok Sample.orderRecord ∧
      Sample.documented.test Sample.orderRecord = .ok true ∧
      Evaluation.Accessible (Sample.documented.test Sample.orderRecord) :=
  ⟨Sample.bind_document, Sample.orderRecord_eq, rfl,
    bound_test_accessible Sample.bind_document (by decide) (by decide) rfl Sample.orderRecord_eq⟩

end Reshape
