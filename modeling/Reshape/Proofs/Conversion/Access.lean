import Reshape.Proofs.Document.Access
import Reshape.Proofs.Shape.Document

/-!
# Accesses of converted predicates

What a typed predicate is converted to, without defaults and without a custom map, finds its fields
on static types again. So no test of it on a record that was read for the destination accesses a
property that is not there, as long as lambdas are right for the items of what `Any` is called on:
`converted_test_accessible`.

A conversion sees to the latter only in part. The parameter of a lambda over the source shape is
replaced by one over the shape of the elements of the converted receiver, if they have one. Any
other parameter is passed on as it is, while the field that `Any` is called on may give way to a
field of the same name with other elements. This does no harm as long as only fields are read
through the parameter that the other elements have, too (`Expr.KeptLambdasFit`); how it does harm
else is seen in `sample_item_inaccessible`.
-/

namespace Reshape

namespace Conversion

variable {σ : Type} {task : Task σ} {events : List ConversionEvent} {scopes : Scopes}
  {element : Option String} {next : Nat} {e e' : Expr}

/-! ## Paths and constants -/

/-- Where no access becomes a default, paths are converted to paths. -/
theorem Converts.isPath_eq (h : Converts task events scopes element next e e')
    (hthrow : task.options.errorHandling ≠ .returnDefault) : e'.isPath = e.isPath := by
  cases h with
  | default hhandling => exact absurd hhandling hthrow
  | _ => rfl

/-- Where no access becomes a default, constants are converted to constants and nothing else is. -/
theorem Converts.isConstant_eq (h : Converts task events scopes element next e e')
    (hthrow : task.options.errorHandling ≠ .returnDefault) : e'.isConstant = e.isConstant := by
  cases h with
  | default hhandling => exact absurd hhandling hthrow
  | _ => rfl

/-- Where no access becomes a default, the constants of a counterpart are those of the original. -/
theorem Converts.constant_mem (h : Converts task events scopes element next e e')
    (hthrow : task.options.errorHandling ≠ .returnDefault) {value : Value} {type : FieldType}
    (hconstant : .constant value type ∈ e'.nodes) : .constant value type ∈ e.nodes := by
  obtain ⟨_, hnode, _, _, _, _, _, hconverts⟩ := h.nodes _ hconstant
  cases hconverts with
  | default hhandling => exact absurd hhandling hthrow
  | constant => exact hnode

/-- A lambda that `Any` takes in a counterpart comes from one that it takes in the original, on a
receiver with the counterpart that `Any` is called on. -/
theorem Converts.lambda_origin (h : Converts task events scopes element next e e')
    {call' : Expr × Parameter} (hcall' : call' ∈ e'.lambdaCalls) :
    ∃ call ∈ e.lambdaCalls, ∃ around later body body',
      .lambda call.2 body ∈ e.nodes ∧
      (Scoped task.source scopes e → Scoped task.source around call.1) ∧
      Converts task events around none later call.1 call'.1 ∧
      Converts task events around call'.1.resultType.elementShapeName? later (.lambda call.2 body)
        (.lambda call'.2 body') := by
  obtain ⟨arguments', body', hnode', hlambda'⟩ := Expr.mem_lambdaCalls.1 hcall'
  obtain ⟨_, hnode, around, _, later, _, hscoped, hconverts⟩ := h.nodes _ hnode'
  cases hconverts with
  | @call _ _ _ _ receiver _ arguments _ hreceiver hlength harguments =>
      obtain ⟨argument, hzip⟩ := exists_mem_zip hlength hlambda'
      have hargument := harguments argument _ hzip
      have hmem := (List.of_mem_zip hzip).1
      -- only a lambda is converted to a lambda
      obtain ⟨p, body, rfl⟩ : ∃ p body, argument = .lambda p body := by
        cases hargument
        exact ⟨_, _, rfl⟩
      refine ⟨(receiver, p), Expr.mem_lambdaCalls.2 ⟨arguments, body, hnode, hmem⟩, around, later,
        body, body', ?_, ?_, hreceiver, hargument⟩
      · exact Expr.mem_nodes_trans hnode
          (Expr.mem_nodes_of_child (Expr.self_mem_nodes _) (List.mem_cons_of_mem _ hmem))
      · exact fun h => (hscoped h).child rfl (by simp [Expr.children])

/-- Where no access becomes a default, accesses of a counterpart are made on paths if those of the
original are, and `Any` is called on paths and constants. -/
theorem Converts.readsPaths (h : Converts task events scopes element next e e')
    (hthrow : task.options.errorHandling ≠ .returnDefault) (he : e.ReadsPaths) :
    e'.ReadsPaths where
  access node' hnode' := by
    obtain ⟨_, hnode, _, _, _, _, _, hconverts⟩ := h.nodes node' hnode'
    have hreads := he.access _ hnode
    cases hconverts with
    | member htarget => exact (htarget.isPath_eq hthrow).trans hreads
    | _ => rfl
  receiver call' hcall' := by
    obtain ⟨call, hcall, _, _, _, _, _, _, hreceiver, _⟩ := h.lambda_origin hcall'
    rw [hreceiver.isPath_eq hthrow, hreceiver.isConstant_eq hthrow]
    exact he.receiver call hcall

/-! ## Lambdas -/

/-- The counterpart of a path or constant of a list type is an access, or has not changed. -/
theorem Converts.access_or_same (h : Converts task events scopes element next e e')
    (hthrow : task.options.errorHandling ≠ .returnDefault) (hscoped : Scoped task.source scopes e)
    (he : e.isConstant ∨ e.isPath) {item : FieldType} (hlist : e.resultType.element? = some item) :
    e'.isAccess ∨ e' = e := by
  cases h with
  | parameter p =>
      -- a parameter of a list type is not over the source shape
      have hother : p.shape? ≠ some task.source := by
        have hnone : p.shape? = none := FieldType.shapeName_of_element hlist
        simp [hnone]
      rw [hscoped.replacement_eq hother]
      exact Or.inr rfl
  | member => exact Or.inl rfl
  | default hhandling => exact absurd hhandling hthrow
  | constant => exact Or.inr rfl
  | _ => simp [Expr.isConstant, Expr.isPath] at he

end Conversion

/-- `e.KeptLambdasFit registry bound` says that a lambda that `Any` takes on a field in `e` is right
for the items of the field, if its parameter has an identity below `bound` or if the items have no
shape: the parameter ranges over the items, or serves for them. -/
def Expr.KeptLambdasFit (registry : Registry) (bound : Nat) (e : Expr) : Prop :=
  e.LambdasOver fun receiver p => receiver.isAccess → receiver.holdsItems →
    p.identity < bound ∨ receiver.resultType.elementShapeName? = none →
    p.type.RangesOver receiver.resultType ∨ e.Serves registry p receiver.resultType.element?

instance (registry : Registry) (bound : Nat) (e : Expr) :
    Decidable (e.KeptLambdasFit registry bound) :=
  inferInstanceAs (Decidable (e.LambdasOver _))

/-- The lambdas of a counterpart are right for the items of what `Any` is called on, if those of the
original have the element type there and those that are passed on fit. -/
theorem Conversion.Converts.lambdas_fit {registry : Registry} {σ : Type} {task : Task σ}
    {events : List ConversionEvent} {scopes : Scopes} {element : Option String} {next : Nat}
    {e e' : Expr} (h : Converts task events scopes element next e e')
    (hthrow : task.options.errorHandling ≠ .returnDefault) (hscoped : Scoped task.source scopes e)
    {bound : Nat} (holder : e.OlderThan bound) (hpaths : e.ReadsPaths)
    (hlambdas : e.LambdasOver fun receiver p => receiver.resultType.element? = some p.type)
    (hfit : e'.KeptLambdasFit registry bound) :
    e'.LambdasOver fun receiver p => receiver.holdsItems →
      p.type.RangesOver receiver.resultType ∨
        e'.Serves registry p receiver.resultType.element? := by
  rintro ⟨receiver', q⟩ hcall' hitems
  obtain ⟨⟨receiver, p⟩, hcall, _, _, _, _, hnode, hinner, hreceiver, hconverts⟩ :=
    h.lambda_origin hcall'
  have hlist := hlambdas _ hcall
  have hsame := hreceiver.access_or_same hthrow (hinner hscoped) (hpaths.receiver _ hcall) hlist
  cases hconverts with
  | lambda hq =>
      cases hq with
      | kept =>
          rcases hsame with haccess | rfl
          · have hearlier := holder q (List.mem_filterMap.2 ⟨_, hnode, rfl⟩)
            exact hfit _ hcall' haccess hitems (Or.inl hearlier)
          · exact Or.inl (Or.inr (Or.inl hlist))
      | renewed hsource _ htype =>
          cases hshape : receiver'.resultType.elementShapeName? with
          | some shape =>
              refine Or.inl (Or.inr (Or.inr ?_))
              rw [hshape, htype]
              simp [hshape]
          | none =>
              rcases hsame with haccess | rfl
              · exact hfit _ hcall' haccess hitems (Or.inr hshape)
              · rw [FieldType.elementShapeName_eq, hlist] at hshape
                exact absurd (hsource.symm.trans hshape) (by simp)

open Document Conversion in
/-- No test of a predicate that a bound one was converted to without defaults and without a custom
map, on a record that was read for the destination, fails for a property that is not there. In the
bound predicate accesses are to be made on parameters and other accesses, and lambdas that `Any`
takes on one of these or a constant are to have the type of the elements; and where `Any` is called
on a field after the conversion, the lambdas that were passed on are to range over its items still,
or to read only what these have. -/
theorem converted_test_accessible {registry : Registry} {document : Document}
    {identity next : Nat} {predicate converted : Predicate}
    (hbind : document.bind registry identity = .ok (predicate, next))
    (hpaths : predicate.body.ReadsPaths)
    (hlambdas : predicate.body.LambdasOver fun receiver p =>
      receiver.resultType.element? = some p.type)
    {options : Options} {clock : Clock} {scope nextIdentity : Nat} {destination : String}
    {cache : Cache} {final : State Cache} (hnext : next ≤ nextIdentity)
    (hmap : options.customMap = none) (hthrow : options.errorHandling = .throw)
    (hconvert : predicate.convert registry options clock scope destination nextIdentity cache =
      (.ok converted, final))
    (hfit : converted.body.KeptLambdasFit registry nextIdentity) {json : Json} {record : Value}
    (hrecord : registry.recordOfJson destination json = .ok record) :
    Evaluation.Accessible (converted.test record) := by
  obtain ⟨hrepresents, holder⟩ := bind_represents hbind
  have holder : predicate.OlderThan nextIdentity :=
    fun p hp => Nat.lt_of_lt_of_le (holder p hp) hnext
  obtain ⟨source, hshape, hroot, hconverts⟩ := convert_converts hmap hconvert
  have hthrows : options.errorHandling ≠ .returnDefault := by
    rw [hthrow]
    simp
  have hscoped : Scoped source [(predicate.parameter, converted.parameter)] predicate.body :=
    ⟨hrepresents.references, List.forall_mem_singleton.2 fun hother => absurd hshape hother⟩
  have htyped : converted.body.Typed registry := {
    paths := hconverts.readsPaths hthrows hpaths
    resolved := hconverts.resolved
    constant := fun value type hconstant =>
      hrepresents.constant_fits (hconverts.constant_mem hthrows hconstant)
    lambda := hconverts.lambdas_fit hthrows hscoped
      (fun p hp => holder p (List.mem_cons_of_mem _ hp)) hpaths hlambdas hfit }
  have hreferences := convert_references holder hrepresents.references.closedIn hmap hconvert
  have hvalue : registry.Conforms converted.parameter.type record := by
    rw [hroot]
    exact Registry.recordOfJson_conforms hrecord
  exact Evaluation.test_accessible htyped hreferences hvalue

/-! ## Orders and views of them -/

namespace Sample

open Conversion

/-- `unnamedView` is the counterpart of `unnamed` over views, whose parts are items. -/
def unnamedView : Predicate where
  parameter := ⟨2, some "p", .shape "View"⟩
  body := .binary .and
    (.binary .greater
      (.member (.parameter ⟨2, some "p", .shape "View"⟩) ⟨"Amount", .integer, "View"⟩)
      (.constant (.integer 3) .integer))
    (.call .any
      (.member (.parameter ⟨2, some "p", .shape "View"⟩)
        ⟨"Parts", .list (.shape "Item"), "View"⟩)
      [.lambda ⟨3, some "p", .shape "Item"⟩
        (.binary .equal
          (.member (.parameter ⟨3, some "p", .shape "Item"⟩) ⟨"Note", .string, "Item"⟩)
          (.constant (.string "fragile") .string))])

/-- `unnamedConversion` is what comes of converting `unnamed` to views. -/
def unnamedConversion : Except Error Predicate × State Cache :=
  unnamed.convert registry .default id 0 "View" 2 (.empty .unbounded)

theorem unnamedConversion_eq : unnamedConversion = (.ok unnamedView, unnamedConversion.2) := rfl

/-- `viewJson` is a large view with a fragile part. -/
def viewJson : Json :=
  .object [("Amount", .number (.integer 7)),
    ("Parts", .array [.object [("Note", .string "fragile")]])]

/-- `viewRecord` is the record of that view. -/
def viewRecord : Value :=
  .record "View"
    [("Amount", .integer 7), ("Items", .null),
      ("Parts", .list [.record "Item" [("Note", .string "fragile"), ("Count", .integer 0)]])]

theorem viewRecord_eq : registry.recordOfJson "View" viewJson = .ok viewRecord := rfl

end Sample

/-- Orders are converted to views together with their parts, which are items there. A view read from
JSON has what is asked for. -/
theorem sample_converted_accessible :
    Sample.unnamedDocument.bind Sample.registry 0 = .ok (Sample.unnamed, 2) ∧
      Sample.unnamedConversion.1 = .ok Sample.unnamedView ∧
      Sample.registry.recordOfJson "View" Sample.viewJson = .ok Sample.viewRecord ∧
      Sample.unnamedView.test Sample.viewRecord = .ok true ∧
      Evaluation.Accessible (Sample.unnamedView.test Sample.viewRecord) :=
  ⟨Sample.bind_unnamed, rfl, Sample.viewRecord_eq, rfl,
    converted_test_accessible Sample.bind_unnamed (by decide) (by decide) (Nat.le_refl 2) rfl rfl
      Sample.unnamedConversion_eq (by decide) Sample.viewRecord_eq⟩

namespace Sample

/-- `countedDocument` asks for a view with a part that is there more than once. -/
def countedDocument : Document where
  parameter := some "v"
  shape := "View"
  body := .call .any (.member (.parameter (some "v")) "Parts")
    [.lambda (some "i") "Item"
      (.binary .greater (.member (.parameter (some "i")) "Count")
        (.constant (.number (.integer 1)) none))]

/-- `counted` is what `countedDocument` is bound to. -/
def counted : Predicate where
  parameter := ⟨0, some "v", .shape "View"⟩
  body := .call .any
    (.member (.parameter ⟨0, some "v", .shape "View"⟩) ⟨"Parts", .list (.shape "Item"), "View"⟩)
    [.lambda ⟨1, some "i", .shape "Item"⟩
      (.binary .greater
        (.member (.parameter ⟨1, some "i", .shape "Item"⟩) ⟨"Count", .integer, "Item"⟩)
        (.constant (.integer 1) .integer))]

theorem readType_item : Document.readType "Item" = .ok (.shape "Item") :=
  Document.readType_eq_ok.2 (@FieldType.read_render (.shape "Item") ⟨by decide, rfl⟩)

open Document in
theorem bind_counted : countedDocument.bind registry 0 = .ok (counted, 2) := by
  simp only [Document.bind, bindFrom, countedDocument, bindNode, bindArguments, readType_item]
  rfl

/-- `countedOrder` is the counterpart of `counted` over orders. Their parts are orders, but the
lambda asks for items as before. -/
def countedOrder : Predicate where
  parameter := ⟨2, some "v", .shape "Order"⟩
  body := .call .any
    (.member (.parameter ⟨2, some "v", .shape "Order"⟩)
      ⟨"Parts", .list (.shape "Order"), "Order"⟩)
    [.lambda ⟨1, some "i", .shape "Item"⟩
      (.binary .greater
        (.member (.parameter ⟨1, some "i", .shape "Item"⟩) ⟨"Count", .integer, "Item"⟩)
        (.constant (.integer 1) .integer))]

/-- A lambda over items does not range over orders. It does not serve for them when it reads the
count, which only items have, but when it reads the note, it does. -/
example :
    ¬ (FieldType.shape "Item").RangesOver (.list (.shape "Order")) ∧
      ¬ countedOrder.body.KeptLambdasFit registry 2 ∧
      (Expr.call .any
        (.member (.parameter ⟨2, some "v", .shape "Order"⟩)
          ⟨"Parts", .list (.shape "Order"), "Order"⟩)
        [.lambda ⟨1, some "i", .shape "Item"⟩
          (.binary .equal
            (.member (.parameter ⟨1, some "i", .shape "Item"⟩) ⟨"Note", .string, "Item"⟩)
            (.constant (.string "fragile") .string))]).KeptLambdasFit registry 2 := by
  decide

end Sample

/-- The lambda of `counted` has the type of the parts of a view. The conversion to orders succeeds
and passes it on, and then a part of an order is asked for a field that only items have. -/
theorem sample_item_inaccessible :
    Sample.registry.document.load = .ok Sample.registry ∧
      Sample.countedDocument.bind Sample.registry 0 = .ok (Sample.counted, 2) ∧
      Sample.counted.body.ReadsPaths ∧
      (Sample.counted.body.LambdasOver fun receiver p =>
        receiver.resultType.element? = some p.type) ∧
      (Sample.counted.convert Sample.registry .default id 0 "Order" 2 (.empty .unbounded)).1 =
        .ok Sample.countedOrder ∧
      Sample.registry.recordOfJson "Order" Sample.orderJson = .ok Sample.orderRecord ∧
      Sample.countedOrder.test Sample.orderRecord = .error (.invalidProperty "Count" "Order") :=
  ⟨Sample.load_registry, Sample.bind_counted, by decide, by decide, rfl, Sample.orderRecord_eq, rfl⟩

end Reshape
