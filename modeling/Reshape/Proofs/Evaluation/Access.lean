import Reshape.Proofs.Document.WellFormed
import Reshape.Proofs.Shape.Conformance

/-!
# Evaluation of accesses

An access fails for a property that is not there when the value of its target is no record, or is
one without the field. Static types rule this out as far as values keep to them: a reference has the
value that its parameter is bound to, and an access on a record of its shape has a value of the type
of the field. `Typed` says what an expression has to satisfy, and then a test on a value of the
parameter's type never fails in this way: `test_accessible`.

Two things are looked at closely. A constant without a type in a document gets one from its value,
which need not be right for a list of mixed items, but mentions no shape (`Fits`). And a lambda that
is given to `Any` is evaluated on items, which need not be of the type that its parameter declares.
Either they are (`RangesOver`), or whatever is read through the parameter is there on the type that
the items do have (`Serves`). An environment is described by the latter alone (`Suits`), which the
declared type implies.
-/

namespace Reshape

/-! ## Static types -/

namespace Expr

/-- `e.isPath` says that `e` is a parameter or an access. -/
def isPath : Expr → Bool
  | .parameter _ | .member _ _ => true
  | _ => false

/-- `e.isConstant` says that `e` is a constant. -/
def isConstant : Expr → Bool
  | .constant _ _ => true
  | _ => false

/-- `e.isAccess` says that `e` is an access. -/
def isAccess : Expr → Bool
  | .member _ _ => true
  | _ => false

/-- `e.holdsItems` says that the values of `e` may be lists, as far as the type of the field tells
for an access. -/
def holdsItems : Expr → Bool
  | .member _ field => field.type.holdsItems
  | _ => true

/-- `e.lambdaCalls` are what `Any` is called on in `e` with a lambda as its argument, each with the
parameter of the lambda. -/
def lambdaCalls (e : Expr) : List (Expr × Parameter) :=
  e.nodes.flatMap fun
    | .call .any receiver arguments =>
      arguments.filterMap fun
        | .lambda p _ => some (receiver, p)
        | _ => none
    | _ => []

/-- The lambdas that `Any` takes stand among the arguments of its calls. -/
theorem mem_lambdaCalls {e receiver : Expr} {p : Parameter} :
    (receiver, p) ∈ e.lambdaCalls ↔
      ∃ arguments body, .call .any receiver arguments ∈ e.nodes ∧ .lambda p body ∈ arguments := by
  rw [lambdaCalls, List.mem_flatMap]
  constructor
  · rintro ⟨node, hnode, hmem⟩
    split at hmem
    · rename_i arguments
      obtain ⟨argument, hargument, hpair⟩ := List.mem_filterMap.1 hmem
      split at hpair
      · rename_i body
        cases hpair
        exact ⟨arguments, body, hnode, hargument⟩
      · cases hpair
    · cases hmem
  · rintro ⟨arguments, body, hnode, hargument⟩
    exact ⟨_, hnode, List.mem_filterMap.2 ⟨_, hargument, rfl⟩⟩

/-- `e.LambdasOver related` says that what `Any` is called on in `e` with a lambda is related to the
parameter of the lambda. -/
def LambdasOver (related : Expr → Parameter → Prop) (e : Expr) : Prop :=
  ∀ call ∈ e.lambdaCalls, related call.1 call.2

instance (related : Expr → Parameter → Prop) [∀ receiver p, Decidable (related receiver p)]
    (e : Expr) : Decidable (e.LambdasOver related) :=
  inferInstanceAs (Decidable (∀ call ∈ e.lambdaCalls, related call.1 call.2))

/-- What is so for the lambdas of an expression is so for those of a part. -/
theorem LambdasOver.child {related : Expr → Parameter → Prop} {e part : Expr}
    (h : e.LambdasOver related) (hpart : part ∈ e.children) : part.LambdasOver related := by
  rintro ⟨receiver, p⟩ hcall
  obtain ⟨arguments, body, hnode, hlambda⟩ := mem_lambdaCalls.1 hcall
  exact h (receiver, p)
    (mem_lambdaCalls.2 ⟨arguments, body, mem_nodes_of_child hnode hpart, hlambda⟩)

/-- `e.readsPath` says that `e` is no access, or one that is made on a parameter or an access. -/
def readsPath : Expr → Bool
  | .member target _ => target.isPath
  | _ => true

/-- `e.ReadsPaths` says that accesses in `e` are made on parameters and accesses, and that `Any`
takes a lambda only on these and on constants. -/
structure ReadsPaths (e : Expr) : Prop where
  access : ∀ node ∈ e.nodes, node.readsPath
  receiver : e.LambdasOver fun receiver _ => receiver.isConstant ∨ receiver.isPath

theorem ReadsPaths.child {e part : Expr} (h : e.ReadsPaths) (hpart : part ∈ e.children) :
    part.ReadsPaths where
  access node hnode := h.access node (mem_nodes_of_child hnode hpart)
  receiver := h.receiver.child hpart

instance (e : Expr) : Decidable e.ReadsPaths :=
  decidable_of_iff ((∀ node ∈ e.nodes, node.readsPath) ∧
      e.LambdasOver fun receiver _ => receiver.isConstant ∨ receiver.isPath)
    ⟨fun ⟨access, receiver⟩ => ⟨access, receiver⟩, fun ⟨access, receiver⟩ => ⟨access, receiver⟩⟩

end Expr

/-! ## Paths -/

namespace Expr

/-- `e.root?` is the parameter that a path begins with. -/
def root? : Expr → Option Parameter
  | .parameter p => some p
  | .member target _ => target.root?
  | _ => none

/-- `e.typeOver registry element` is the type of a path when its parameter ranges over values of the
type `element`, as far as the registry finds the fields. -/
def typeOver (registry : Registry) (element : Option FieldType) : Expr → Option FieldType
  | .parameter _ => element
  | .member target field =>
    ((target.typeOver registry element).bind FieldType.shapeName?).bind fun shape =>
      (registry.member? shape field.name).map (·.type)
  | _ => none

/-- A path has a type when the field is found on the type of the target. -/
theorem typeOver_member {registry : Registry} {element : Option FieldType} {target : Expr}
    {field : FieldDescriptor} {type : FieldType} :
    (member target field).typeOver registry element = some type ↔
      ∃ inner shape found, target.typeOver registry element = some inner ∧
        inner.shapeName? = some shape ∧ registry.member? shape field.name = some found ∧
        found.type = type := by
  simp only [typeOver, Option.bind_eq_some_iff, Option.map_eq_some_iff]
  constructor
  · rintro ⟨shape, ⟨inner, hinner, hshape⟩, found, hfound, htype⟩
    exact ⟨inner, shape, found, hinner, hshape, hfound, htype⟩
  · rintro ⟨inner, shape, found, hinner, hshape, hfound, htype⟩
    exact ⟨shape, ⟨inner, hinner, hshape⟩, found, hfound, htype⟩

/-- Where accesses are made on paths, a path begins with a parameter. -/
theorem ReadsPaths.root_of_isPath {e : Expr} (h : e.ReadsPaths) (he : e.isPath) :
    ∃ p, e.root? = some p := by
  induction e with
  | parameter p => exact ⟨p, rfl⟩
  | member target field ih =>
      have htarget : target.isPath := h.access _ (self_mem_nodes _)
      exact ih (h.child (by simp [children])) htarget
  | _ => cases he

/-- What is found in an expression is found in each of its nodes. -/
theorem Resolved.node {registry : Registry} {e node : Expr} (h : e.Resolved registry)
    (hnode : node ∈ e.nodes) : node.Resolved registry :=
  fun target field hinner => h target field (mem_nodes_trans hnode hinner)

/-- Over its own type, a path with fields that the registry finds has its static type. -/
theorem Resolved.typeOver_eq {registry : Registry} {e : Expr} (h : e.Resolved registry)
    {p : Parameter} (hroot : e.root? = some p) :
    e.typeOver registry (some p.type) = some e.resultType := by
  induction e with
  | parameter q =>
      cases hroot
      rfl
  | member target field ih =>
      obtain ⟨shape, hshape, hmember⟩ := h target field (self_mem_nodes _)
      have htarget : target ∈ (member target field).nodes :=
        mem_nodes_of_child target.self_mem_nodes (by simp [children])
      exact typeOver_member.2 ⟨_, shape, field, ih (h.node htarget) hroot, hshape, hmember, rfl⟩
  | _ => cases hroot

/-- `e.Serves registry p element` says that `p` serves in `e` for values of the type `element`, if
there is such a type: the registry finds every field that is read through `p`, and where `Any` takes
a lambda on something read through `p`, this has the type that it declares. -/
structure Serves (registry : Registry) (p : Parameter) (element : Option FieldType) (e : Expr) :
    Prop where
  access : ∀ node ∈ e.nodes, node.isAccess → node.root? = some p →
    (node.typeOver registry element).isSome
  receiver : e.LambdasOver fun receiver _ => receiver.root? = some p →
    receiver.typeOver registry element = some receiver.resultType

instance (registry : Registry) (p : Parameter) (element : Option FieldType) (e : Expr) :
    Decidable (e.Serves registry p element) :=
  decidable_of_iff ((∀ node ∈ e.nodes, node.isAccess → node.root? = some p →
      (node.typeOver registry element).isSome) ∧ e.LambdasOver fun receiver _ =>
        receiver.root? = some p → receiver.typeOver registry element = some receiver.resultType)
    ⟨fun ⟨access, receiver⟩ => ⟨access, receiver⟩, fun ⟨access, receiver⟩ => ⟨access, receiver⟩⟩

/-- What a parameter serves for in an expression, it serves for in a part. -/
theorem Serves.child {registry : Registry} {p : Parameter} {element : Option FieldType}
    {e part : Expr} (h : e.Serves registry p element) (hpart : part ∈ e.children) :
    part.Serves registry p element where
  access node hnode := h.access node (mem_nodes_of_child hnode hpart)
  receiver := h.receiver.child hpart

/-- A parameter serves for values of its own type. -/
theorem Resolved.serves {registry : Registry} {e : Expr} (h : e.Resolved registry)
    (p : Parameter) : e.Serves registry p (some p.type) where
  access node hnode _ hroot := by
    rw [(h.node hnode).typeOver_eq hroot]
    rfl
  receiver call hcall hroot := by
    obtain ⟨arguments, body, hnode, _⟩ := mem_lambdaCalls.1 hcall
    have hreceiver : call.1 ∈ e.nodes :=
      mem_nodes_trans hnode (mem_nodes_of_child call.1.self_mem_nodes (by simp [children]))
    exact (h.node hreceiver).typeOver_eq hroot

end Expr

/-! ## Values of types -/

/-- `registry.Fits type value` says that `value` is a value of `type`, or that `type` mentions no
shape. -/
def Registry.Fits (registry : Registry) (type : FieldType) (value : Value) : Prop :=
  type.mentioned? = none ∨ registry.Conforms type value

namespace Registry.Fits

variable {registry : Registry} {type : FieldType} {value : Value}

/-- What fits a type that names a shape conforms to it. -/
theorem conforms (h : registry.Fits type value) {shape : String}
    (hshape : type.shapeName? = some shape) : registry.Conforms type value := by
  rcases h with hnone | h
  · rw [FieldType.mentioned_of_shapeName hshape] at hnone
    cases hnone
  · exact h

/-- The items of a list fit the type of its elements. -/
theorem element {items : List Value} (h : registry.Fits type (.list items)) {element : FieldType}
    (helement : type.element? = some element) : ∀ item ∈ items, registry.Fits element item := by
  intro item hitem
  rcases h with hnone | h
  · rw [FieldType.mentioned_of_element helement] at hnone
    exact Or.inl hnone
  · exact Or.inr (h.items helement item hitem)

/-- A parameter that ranges over the items of a list type fits them. -/
theorem items {items : List Value} (h : registry.Fits type (.list items)) {ranging : FieldType}
    (hover : ranging.RangesOver type) : ∀ item ∈ items, registry.Fits ranging item := by
  intro item hitem
  rcases hover with hnone | helement | hover
  · exact Or.inl hnone
  · exact h.element helement item hitem
  · obtain ⟨shape, hshape, rfl⟩ := Option.map_eq_some_iff.1 hover
    rw [FieldType.elementShapeName_eq] at hshape
    obtain ⟨element, helement, hname⟩ := Option.bind_eq_some_iff.1 hshape
    exact Or.inr (((h.element helement item hitem).conforms hname).of_shapeName hname)

/-- Where a field is found on a type, a value that fits the type is null, or a record with a value
of the type of the field under its name. -/
theorem record (h : registry.Fits type value) {shape name : String}
    (hshape : type.shapeName? = some shape) {field : FieldDescriptor}
    (hmember : registry.member? shape name = some field) :
    value = .null ∨ ∃ fields found, value = .record shape fields ∧
      fields.lookup name = some found ∧ registry.Conforms field.type found := by
  rcases (h.conforms hshape).record_of_shapeName hshape with rfl | ⟨fields, rfl, hfields⟩
  · exact Or.inl rfl
  · obtain ⟨found, hfound, hconforms⟩ := hfields name field hmember
    exact Or.inr ⟨fields, found, rfl, hfound, hconforms⟩

end Registry.Fits

/-- `e.Typed registry` says that accesses in `e` are to fields that the registry finds and are made
on paths, that its constants fit their types, and that lambdas range over the items of what `Any` is
called on, or serve for them, if that holds any. -/
structure Expr.Typed (registry : Registry) (e : Expr) : Prop where
  paths : e.ReadsPaths
  resolved : e.Resolved registry
  constant : ∀ value type, .constant value type ∈ e.nodes → registry.Fits type value
  lambda : e.LambdasOver fun receiver p => receiver.holdsItems →
    p.type.RangesOver receiver.resultType ∨
      e.Serves registry p receiver.resultType.element?

/-- The parts of a typed expression are typed. -/
theorem Expr.Typed.child {registry : Registry} {e part : Expr} (h : e.Typed registry)
    (hpart : part ∈ e.children) : part.Typed registry where
  paths := h.paths.child hpart
  resolved := h.resolved.node (mem_nodes_of_child part.self_mem_nodes hpart)
  constant value type hnode := h.constant value type (mem_nodes_of_child hnode hpart)
  lambda call hcall hitems :=
    (h.lambda.child hpart call hcall hitems).imp_right fun hserves => hserves.child hpart

namespace Evaluation

variable {registry : Registry} {environment : Environment} {e : Expr} {value : Value}

/-! ## Values of paths -/

/-- `Suits registry e p value` says that `value` fits a type that `p` serves for in `e`. -/
def Suits (registry : Registry) (e : Expr) (p : Parameter) (value : Value) : Prop :=
  ∃ element, e.Serves registry p element ∧
    ∀ type, element = some type → registry.Fits type value

/-- A value that fits the type of a parameter suits it. -/
theorem suits_of_fits (h : e.Resolved registry) {p : Parameter}
    (hvalue : registry.Fits p.type value) : Suits registry e p value :=
  ⟨some p.type, h.serves p, fun _ htype => Option.some.inj htype ▸ hvalue⟩

theorem Suits.child {part : Expr} {p : Parameter} (h : Suits registry e p value)
    (hpart : part ∈ e.children) : Suits registry part p value := by
  obtain ⟨element, hserves, hfits⟩ := h
  exact ⟨element, hserves.child hpart, hfits⟩

/-- `Fitting registry environment e` says that `e` is typed and refers to what `environment` binds,
and that the values bound there suit their parameters. -/
structure Fitting (registry : Registry) (environment : Environment) (e : Expr) : Prop where
  typed : e.Typed registry
  references : e.ScopedIn (environment.map Prod.fst)
  values : ∀ binding ∈ environment, Suits registry e binding.1 binding.2

theorem Fitting.child {part : Expr} (h : Fitting registry environment e) (hown : e.own? = none)
    (hpart : part ∈ e.children) : Fitting registry environment part where
  typed := h.typed.child hpart
  references := (Expr.scopedIn_parts hown).1 h.references part hpart
  values binding hbinding := (h.values binding hbinding).child hpart

/-- The value of a reference is bound to the very parameter referred to. -/
theorem mem_of_lookup {p : Parameter}
    (h : (Expr.parameter p).ScopedIn (environment.map Prod.fst))
    (hvalue : lookup environment p = .ok value) : (p, value) ∈ environment := by
  rw [lookup] at hvalue
  split at hvalue
  · rename_i binding hbinding
    cases hvalue
    have hsame : some binding.1 = some p := by
      rw [← Expr.scopedIn_parameter.1 h, List.find?_map]
      exact (congrArg (Option.map Prod.fst) hbinding).symm
    rw [← Option.some.inj hsame]
    exact List.mem_of_find?_eq_some hbinding
  · cases hvalue

/-- The value of a path is read from what its parameter is bound to. If that fits a type, the value
fits the type that the path has over it; and if the path is an access, it is a value of it. -/
theorem path_value_over {p : Parameter} (hroot : e.root? = some p)
    (hscoped : e.ScopedIn (environment.map Prod.fst))
    (hvalue : evaluate environment e = .ok value) :
    ∃ bound, (p, bound) ∈ environment ∧ ∀ element,
      (∀ type, element = some type → registry.Fits type bound) →
      ∀ type, e.typeOver registry element = some type →
        registry.Fits type value ∧ (e.isAccess → registry.Conforms type value) := by
  induction e generalizing value with
  | parameter q =>
      cases hroot
      refine ⟨value, mem_of_lookup hscoped hvalue, fun _ hbound type htype => ?_⟩
      exact ⟨hbound type htype, nofun⟩
  | member target field ih =>
      rw [evaluate] at hvalue
      obtain ⟨received, hreceived, hvalue⟩ := except_bind_eq_ok.1 hvalue
      obtain ⟨bound, hmem, htarget⟩ := ih hroot
        ((Expr.scopedIn_parts rfl).1 hscoped target (by simp [Expr.children])) hreceived
      refine ⟨bound, hmem, fun element hbound type htype => ?_⟩
      obtain ⟨inner, shape, found, hinner, hshape, hfound, rfl⟩ := Expr.typeOver_member.1 htype
      have hreceivedFits := (htarget element hbound inner hinner).1
      rcases hreceivedFits.record hshape hfound with rfl | ⟨fields, stored, rfl, hstored, hconforms⟩
      · cases hvalue
      · rw [fieldOf, hstored] at hvalue
        cases hvalue
        exact ⟨Or.inr hconforms, fun _ => hconforms⟩
  | _ => cases hroot

/-- A path that is a part of a fitting expression begins with a parameter that serves there for some
type, and has a value of the type that the path has over this. -/
theorem Fitting.path_value (h : Fitting registry environment e) (hown : e.own? = none)
    {path : Expr} (hpart : path ∈ e.children) (hpath : path.isPath)
    (hvalue : evaluate environment path = .ok value) :
    ∃ p element, path.root? = some p ∧ e.Serves registry p element ∧
      ∀ type, path.typeOver registry element = some type →
        registry.Fits type value ∧ (path.isAccess → registry.Conforms type value) := by
  have hfitting := h.child hown hpart
  obtain ⟨p, hroot⟩ := hfitting.typed.paths.root_of_isPath hpath
  obtain ⟨bound, hmem, hover⟩ := path_value_over hroot hfitting.references hvalue
  obtain ⟨element, hserves, hbound⟩ := h.values _ hmem
  exact ⟨p, element, hroot, hserves, hover element hbound⟩

/-- What `Any` takes a lambda on has a value that fits its static type, and one of it if it is an
access. -/
theorem receiver_fits (h : Fitting registry environment e) {receiver : Expr} {p : Parameter}
    (hcall : (receiver, p) ∈ e.lambdaCalls) (hreceiver : receiver ∈ e.children)
    (hown : e.own? = none) (hvalue : evaluate environment receiver = .ok value) :
    registry.Fits receiver.resultType value ∧
      (receiver.isAccess → registry.Conforms receiver.resultType value) := by
  rcases h.typed.paths.receiver _ hcall with hconstant | hpath
  · cases receiver with
    | constant stored type =>
        cases hvalue
        have hconstant := Expr.mem_nodes_of_child (Expr.self_mem_nodes _) hreceiver
        exact ⟨h.typed.constant _ type hconstant, nofun⟩
    | _ => cases hconstant
  · obtain ⟨root, element, hroot, hserves, hover⟩ := h.path_value hown hreceiver hpath hvalue
    exact hover _ (hserves.receiver _ hcall hroot)

/-- What has a list as its value holds items. -/
theorem holdsItems_of_conforms {items : List Value}
    (h : e.isAccess → registry.Conforms e.resultType (.list items)) : e.holdsItems := by
  cases e with
  | member target field => exact (h rfl).holdsItems
  | _ => rfl

/-! ## No access fails -/

/-- `Accessible x` says that `x` did not fail for a property that is not there. -/
def Accessible {α : Type} (x : Except EvalError α) : Prop :=
  ∀ property typeName, x ≠ .error (.invalidProperty property typeName)

/-- An expression that is typed, in an environment of fitting values, accesses no property that is
not there. -/
theorem fitting_guards (registry : Registry) :
    Guards (fun error => ∀ property typeName, error ≠ .invalidProperty property typeName)
      (Fitting registry) where
  operation error hoperation property typeName heq := by
    subst heq
    cases hoperation
  parameter _ := by
    unfold lookup
    split
    · exact failsOnly_ok _
    · exact failsOnly_error (by simp)
  member {environment target field value} h hvalue := by
    obtain ⟨root, element, hroot, hserves, hover⟩ := h.path_value rfl (by simp [Expr.children])
      (h.typed.paths.access _ (Expr.self_mem_nodes _)) hvalue
    -- the field is found on the type of what the parameter is bound to
    obtain ⟨type, htype⟩ := Option.isSome_iff_exists.1
      (hserves.access _ (Expr.self_mem_nodes _) rfl hroot)
    obtain ⟨inner, shape, found, hinner, hshape, hfound, _⟩ := Expr.typeOver_member.1 htype
    rcases (hover inner hinner).1.record hshape hfound with rfl | ⟨fields, stored, rfl, hstored, _⟩
    · exact failsOnly_error (by simp)
    · rw [fieldOf, hstored]
      exact failsOnly_ok _
  part h hown hpart := h.child hown hpart
  item {environment receiver p body rest items} h hvalue item hitem := by
    have hcall : (receiver, p) ∈ (Expr.call .any receiver (.lambda p body :: rest)).lambdaCalls :=
      Expr.mem_lambdaCalls.2 ⟨_, body, Expr.self_mem_nodes _, List.mem_cons_self⟩
    obtain ⟨hlist, hconforms⟩ := receiver_fits h hcall (by simp [Expr.children]) rfl hvalue
    have hargument : Fitting registry environment (.lambda p body) :=
      h.child rfl (by simp [Expr.children])
    have hbody : body.Typed registry := hargument.typed.child (by simp [Expr.children])
    have hsuits : Suits registry body p item := by
      rcases h.typed.lambda _ hcall (holdsItems_of_conforms hconforms) with hover | hserves
      · exact suits_of_fits hbody.resolved (hlist.items hover item hitem)
      · have hlambda : (Expr.lambda p body).Serves registry p receiver.resultType.element? :=
          hserves.child (by simp [Expr.children])
        exact ⟨_, hlambda.child (by simp [Expr.children]),
          fun type htype => hlist.element htype item hitem⟩
    exact ⟨hbody, Expr.scopedIn_lambda.1 hargument.references,
      List.forall_mem_cons.2 ⟨hsuits, fun binding hbinding =>
        (hargument.values binding hbinding).child (by simp [Expr.children])⟩⟩

/-- The test of a typed predicate on a value of its parameter's type accesses no property that is
not there. -/
theorem test_accessible {predicate : Predicate} (htyped : predicate.body.Typed registry)
    (hscoped : predicate.body.ScopedIn [predicate.parameter])
    (hvalue : registry.Conforms predicate.parameter.type value) :
    Accessible (predicate.test value) := by
  have hbody : Fitting registry [(predicate.parameter, value)] predicate.body :=
    ⟨htyped, hscoped,
      List.forall_mem_singleton.2 (suits_of_fits htyped.resolved (Or.inr hvalue))⟩
  intro property typeName herror
  exact (fitting_guards registry).test hbody _ herror property typeName rfl

end Evaluation

end Reshape
